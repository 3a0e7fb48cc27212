import Mathlib.Data.List.Sort
import Mathlib.Data.String.Basic
import Sandboxes.Container.Creation
import Sandboxes.Profile
import Sandboxes.Proofs.Text.Pieces

/-!
# What a creation request tells

A creation request tells the specification that it was made from, but for the container's name and
for the order and the repetitions of its ports, as long as no variable's name has an equality sign
in it.
-/

namespace Sandboxes

namespace Container

/-! ### Environments -/

namespace Env

/-- The names are ascending. -/
def Ordered (env : Env) : Prop :=
  env.Pairwise (·.1 < ·.1)

/-- No name has an equality sign in it. -/
def Plain (env : Env) : Prop :=
  ∀ entry ∈ env, '=' ∉ entry.1.toList

instance (env : Env) : Decidable env.Ordered :=
  inferInstanceAs (Decidable (List.Pairwise _ _))

instance (env : Env) : Decidable env.Plain :=
  inferInstanceAs (Decidable (∀ entry ∈ env, _))

/-- The variable of an assignment: what stands before and after its first equality sign. -/
def ofAssignment? (assignment : String) : Option (String × String) :=
  (Text.splitFirst? '=' assignment.toList).map fun (name, value) =>
    (String.ofList name, String.ofList value)

variable {env : Env} {name value : String}

lemma ofAssignment?_append (h : '=' ∉ name.toList) :
    ofAssignment? (name ++ "=" ++ value) = some (name, value) := by
  have split : (name ++ "=" ++ value).toList = name.toList ++ '=' :: value.toList := by simp
  rw [ofAssignment?, split, Text.splitFirst?_append_cons h]
  simp

lemma map_assignments (h : env.Plain) : env.assignments.map ofAssignment? = env.map some := by
  rw [assignments, List.map_map]
  exact List.map_congr_left fun entry hentry => ofAssignment?_append (h entry hentry)

lemma filterMap_assignments (h : env.Plain) : env.assignments.filterMap ofAssignment? = env :=
  calc env.assignments.filterMap ofAssignment?
    _ = (env.assignments.map ofAssignment?).filterMap id := by
      rw [List.filterMap_map, Function.id_comp]
    _ = (env.map some).filterMap id := by rw [map_assignments h]
    _ = env := by rw [List.filterMap_map, Function.id_comp, List.filterMap_some]

lemma mem_set {entry : String × String} (h : entry ∈ env.set name value) :
    entry = (name, value) ∨ entry ∈ env := by
  induction env with
  | nil => exact .inl (List.mem_singleton.mp h)
  | cons first env ih =>
    rw [set] at h
    split at h
    · exact List.mem_cons.mp h
    · split at h
      · rcases List.mem_cons.mp h with h | h
        · exact .inl h
        · exact .inr (List.mem_cons_of_mem first h)
      · rcases List.mem_cons.mp h with h | h
        · exact .inr (h ▸ List.mem_cons_self)
        · exact (ih h).imp id (List.mem_cons_of_mem first)

lemma ordered_set (h : env.Ordered) : (env.set name value).Ordered := by
  induction env with
  | nil => exact List.pairwise_singleton ..
  | cons first env ih =>
    obtain ⟨below, rest⟩ := List.pairwise_cons.mp h
    rw [set]
    by_cases before : name < first.1
    · rw [if_pos before]
      refine List.pairwise_cons.mpr ⟨fun entry hmem => ?_, h⟩
      rcases List.mem_cons.mp hmem with rfl | hmem
      · exact before
      · exact String.lt_trans before (below entry hmem)
    · rw [if_neg before]
      by_cases same : name = first.1
      · rw [if_pos same]
        exact List.pairwise_cons.mpr ⟨fun entry hmem => same ▸ below entry hmem, rest⟩
      · rw [if_neg same]
        have after : first.1 < name := (lt_or_gt_of_ne same).resolve_left before
        refine List.pairwise_cons.mpr ⟨fun entry hmem => ?_, ih rest⟩
        rcases mem_set hmem with rfl | hmem
        · exact after
        · exact below entry hmem

lemma ordered_setAll {assignments : List (String × String)} (h : env.Ordered) :
    (env.setAll assignments).Ordered := by
  induction assignments generalizing env with
  | nil => exact h
  | cons first rest ih => exact ih (ordered_set h)

end Env

/-- The environments of all profiles are ordered by name. -/
lemma ordered_ofSettings (s : Settings) (variant : Variant) :
    (Profile.ofSettings s variant).template.env.Ordered := by
  have empty : Env.Ordered [] := List.Pairwise.nil
  cases variant with
  | legacy => exact Env.ordered_setAll empty
  | aio => exact Env.ordered_setAll (Env.ordered_set (Env.ordered_setAll empty))

/-! ### Ports -/

namespace Creation

variable {p q : UInt16} {ps qs : List UInt16}

lemma mem_insertPort : q ∈ insertPort p ps ↔ q = p ∨ q ∈ ps := by
  induction ps with
  | nil => exact List.mem_singleton.trans (by simp)
  | cons first ps ih =>
    rw [insertPort]
    by_cases before : p < first
    · rw [if_pos before, List.mem_cons]
    · rw [if_neg before]
      by_cases same : p = first
      · rw [if_pos same, same, List.mem_cons, ← or_assoc, or_self]
      · rw [if_neg same, List.mem_cons, ih, List.mem_cons, or_left_comm]

lemma pairwise_insertPort (h : ps.Pairwise (· < ·)) : (insertPort p ps).Pairwise (· < ·) := by
  induction ps with
  | nil => exact List.pairwise_singleton ..
  | cons first ps ih =>
    obtain ⟨below, rest⟩ := List.pairwise_cons.mp h
    rw [insertPort]
    by_cases before : p < first
    · rw [if_pos before]
      refine List.pairwise_cons.mpr ⟨fun q hq => ?_, h⟩
      rcases List.mem_cons.mp hq with rfl | hq
      · exact before
      · exact UInt16.lt_trans before (below q hq)
    · rw [if_neg before]
      by_cases same : p = first
      · rwa [if_pos same]
      · rw [if_neg same]
        have after : first < p := (UInt16.lt_or_lt_of_ne same).resolve_left before
        refine List.pairwise_cons.mpr ⟨fun q hq => ?_, ih rest⟩
        rcases mem_insertPort.mp hq with rfl | hq
        · exact after
        · exact below q hq

lemma mem_portSet : q ∈ portSet ps ↔ q ∈ ps := by
  induction ps with
  | nil => rfl
  | cons p ps ih =>
    calc q ∈ portSet (p :: ps)
      _ ↔ q = p ∨ q ∈ portSet ps := mem_insertPort
      _ ↔ q ∈ p :: ps := by rw [ih, List.mem_cons]

lemma pairwise_portSet (ps : List UInt16) : (portSet ps).Pairwise (· < ·) := by
  induction ps with
  | nil => exact List.Pairwise.nil
  | cons p ps ih => exact pairwise_insertPort ih

/-- Neither the order nor the repetitions of ports matter. -/
lemma portSet_eq_portSet (h : ∀ q, q ∈ ps ↔ q ∈ qs) : portSet ps = portSet qs := by
  refine (pairwise_portSet ps).eq_of_mem_iff (pairwise_portSet qs) fun q => ?_
  rw [mem_portSet, mem_portSet, h]

lemma portSet_eq_nil : portSet ps = [] ↔ ps = [] := by
  rw [List.eq_nil_iff_forall_not_mem, List.eq_nil_iff_forall_not_mem]
  exact forall_congr' fun q => not_congr mem_portSet

lemma portName_inj : portName p = portName q ↔ p = q := by
  refine ⟨fun h => ?_, congrArg portName⟩
  rw [portName, portName, String.append_left_inj, Nat.toString_eq_ofList_toDigits,
    Nat.toString_eq_ofList_toDigits, String.ofList_inj] at h
  calc p
    _ = .ofNat (Nat.ofDigitChars 10 (Nat.toDigits 10 p.toNat) 0) := by simp
    _ = .ofNat (Nat.ofDigitChars 10 (Nat.toDigits 10 q.toNat) 0) := by rw [h]
    _ = q := by simp

/-! ### Lists without elements -/

variable {α : Type} {as bs : List α}

lemma getD_nonEmpty : (nonEmpty as).getD [] = as := by
  cases as <;> rfl

lemma nonEmpty_eq_none : nonEmpty as = none ↔ as = [] := by
  cases as <;> simp [nonEmpty]

lemma nonEmpty_inj : nonEmpty as = nonEmpty bs ↔ as = bs := by
  refine ⟨fun h => ?_, congrArg nonEmpty⟩
  calc as
    _ = (nonEmpty as).getD [] := getD_nonEmpty.symm
    _ = (nonEmpty bs).getD [] := by rw [h]
    _ = bs := getD_nonEmpty

/-! ### Requests -/

/-- The names of the ports that are exposed. -/
def exposed (c : Creation) : List String :=
  c.exposedPorts.getD []

/-- The names of the ports that are bound. -/
def bound (c : Creation) : List String :=
  (c.host.portBindings.getD []).map (·.1)

variable {s t : Spec} {name : String}

lemma mem_exposed : name ∈ (ofSpec s).exposed ↔ ∃ port ∈ s.publish, name = portName port := by
  change name ∈ (nonEmpty ((portSet s.publish).map portName)).getD [] ↔ _
  rw [getD_nonEmpty, List.mem_map]
  simp only [mem_portSet, eq_comm]

lemma bound_eq_exposed : (ofSpec s).bound = (ofSpec s).exposed := by
  change ((nonEmpty (((portSet s.publish).map portName).map fun port => (port, _))).getD []).map _ =
    (nonEmpty ((portSet s.publish).map portName)).getD []
  rw [getD_nonEmpty, getD_nonEmpty, List.map_map]
  exact List.map_id _

lemma nodup_exposed : (ofSpec s).exposed.Nodup := by
  change ((nonEmpty ((portSet s.publish).map portName)).getD []).Nodup
  rw [getD_nonEmpty]
  have distinct : (portSet s.publish).Nodup :=
    (pairwise_portSet s.publish).imp fun below => UInt16.ne_of_lt below
  exact distinct.map fun _ _ same => portName_inj.mp same

lemma exposedPorts_eq_none : (ofSpec s).exposedPorts = none ↔ s.publish = [] := by
  rw [← portSet_eq_nil]
  exact nonEmpty_eq_none.trans List.map_eq_nil_iff

lemma portBindings_eq_none : (ofSpec s).host.portBindings = none ↔ s.publish = [] := by
  rw [← portSet_eq_nil]
  exact (nonEmpty_eq_none.trans List.map_eq_nil_iff).trans List.map_eq_nil_iff

lemma mem_publish (h : (ofSpec s).exposed = (ofSpec t).exposed) :
    p ∈ s.publish ↔ p ∈ t.publish := by
  have published {s : Spec} : p ∈ s.publish ↔ portName p ∈ (ofSpec s).exposed := by
    simp [mem_exposed, portName_inj]
  rw [published, published, h]

end Creation

/-- The specifications differ at most in the name, and in the order and repetitions of ports. -/
structure Spec.Agrees (s t : Spec) : Prop where
  image : s.image = t.image
  env : s.env = t.env
  binds : s.binds = t.binds
  publish : ∀ port, port ∈ s.publish ↔ port ∈ t.publish
  securityOptions : s.securityOptions = t.securityOptions
  extraHosts : s.extraHosts = t.extraHosts
  sharedMemory : s.sharedMemory = t.sharedMemory
  network : s.network = t.network
  healthCheck : s.healthCheck = t.healthCheck
  autoRemove : s.autoRemove = t.autoRemove

namespace Creation

variable {s t : Spec}

lemma ofSpec_eq_of_agrees (h : s.Agrees t) : ofSpec s = ofSpec t := by
  simp only [ofSpec, h.image, h.env, h.binds, portSet_eq_portSet h.publish, h.securityOptions,
    h.extraHosts, h.sharedMemory, h.network, h.healthCheck, h.autoRemove]

lemma agrees_of_ofSpec_eq (hs : s.env.Plain) (ht : t.env.Plain) (h : ofSpec s = ofSpec t) :
    s.Agrees t where
  image := congrArg (·.image) h
  env := by
    have assignments : s.env.assignments = t.env.assignments := congrArg (·.env) h
    rw [← Env.filterMap_assignments hs, assignments, Env.filterMap_assignments ht]
  binds := nonEmpty_inj.mp (congrArg (·.host.binds) h)
  publish _ := mem_publish (congrArg exposed h)
  securityOptions := nonEmpty_inj.mp (congrArg (·.host.securityOptions) h)
  extraHosts := nonEmpty_inj.mp (congrArg (·.host.extraHosts) h)
  sharedMemory := congrArg (·.host.sharedMemory) h
  network := congrArg (·.host.networkMode) h
  healthCheck := congrArg (·.healthCheck) h
  autoRemove := congrArg (·.host.autoRemove) h

/-- A creation request tells what it was made from. -/
theorem ofSpec_eq_iff_agrees (hs : s.env.Plain) (ht : t.env.Plain) :
    (ofSpec s = ofSpec t ↔ s.Agrees t) ∧
      (∀ name, name ∈ (ofSpec s).exposed ↔
        ∃ port ∈ s.publish, name = toString port.toNat ++ "/tcp") ∧
      (ofSpec s).bound = (ofSpec s).exposed ∧ (ofSpec s).exposed.Nodup ∧
      ((ofSpec s).exposedPorts = none ↔ s.publish = []) ∧
      ((ofSpec s).host.portBindings = none ↔ s.publish = []) ∧
      (ofSpec s).env.map Env.ofAssignment? = s.env.map some ∧
      (s.env.Ordered → ((ofSpec s).env.filterMap Env.ofAssignment?).Pairwise (·.1 < ·.1)) := by
  refine ⟨⟨agrees_of_ofSpec_eq hs ht, ofSpec_eq_of_agrees⟩, fun _ => mem_exposed, bound_eq_exposed,
    nodup_exposed, exposedPorts_eq_none, portBindings_eq_none, Env.map_assignments hs, ?_⟩
  intro ordered
  change (s.env.assignments.filterMap Env.ofAssignment?).Pairwise _
  rwa [Env.filterMap_assignments hs]

/-- The ports of the all-in-one variant may be given in any order, but none of them left out. -/
theorem ofSpec_eq_iff_agrees_aio :
    ∃ s t u : Spec, s.env.Plain ∧ t.env.Plain ∧ u.env.Plain ∧ s.env.Ordered ∧
      t.publish ≠ s.publish ∧ ofSpec s = ofSpec t ∧ ofSpec s ≠ ofSpec u ∧
      "9222/tcp" ∈ (ofSpec s).exposed ∧ (ofSpec s).bound = (ofSpec s).exposed := by
  let s := (Profile.ofSettings .usual .aio).template.instantiate "aio-sandbox-1"
  let t := { s with name := "other", publish := [9222, 8080, 5900, 8080] }
  let u := { s with publish := [8080, 5900] }
  have plain : s.env.Plain := by decide +kernel
  have same : s.Agrees t := by
    refine ⟨rfl, rfl, rfl, fun port => ?_, rfl, rfl, rfl, rfl, rfl, rfl⟩
    change port ∈ [8080, 5900, 9222] ↔ port ∈ [9222, 8080, 5900, 8080]
    simp only [List.mem_cons, List.not_mem_nil, or_false]
    tauto
  have different : ¬ s.Agrees u := by
    intro h
    have left : 9222 ∉ u.publish := by decide
    exact left ((h.publish 9222).mp (by decide))
  obtain ⟨iff_t, names, keys, -⟩ := ofSpec_eq_iff_agrees plain (t := t) plain
  obtain ⟨iff_u, -⟩ := ofSpec_eq_iff_agrees plain (t := u) plain
  exact ⟨s, t, u, plain, plain, plain, ordered_ofSettings .usual .aio, by decide, iff_t.mpr same,
    mt iff_u.mp different, (names _).mpr ⟨9222, by decide, rfl⟩, keys⟩

end Creation

end Container

end Sandboxes
