import Mathlib.Tactic.Lemma
import Sandboxes.Json.Record

/-!
# Reading records back

A value in a tree is named by its path from the top. Writing undoes reading: what a reader accepts
comes back in its plain form.
-/

namespace Sandboxes.Json

variable {α : Type}

/-! ### Paths -/

/-- The names of the members from the top of a tree to a value in it. -/
abbrev Path := List String

/-- The value at the end of a path. -/
def at? : Path → Json → Option Json
  | [], j => some j
  | name :: path, j => (j.get? name).bind (at? path)

lemma at?_cons (name : String) (path : Path) (j : Json) :
    at? (name :: path) j = (j.get? name).bind (at? path) := rfl

lemma at?_singleton (name : String) (j : Json) : at? [name] j = j.get? name := by
  rw [at?_cons]
  cases j.get? name <;> rfl

/-! ### Members -/

lemma exists_members {j : Json} (h : j.isObj) : ∃ members, j = .obj members := by
  cases j with
  | obj members => exact ⟨members, rfl⟩
  | _ => cases h

lemma lookup_eq_getLast? (name : String) (members : Members) :
    lookup name members = (valuesOf name members).getLast? := by
  rw [lookup, valuesOf, ← List.head?_filter, List.filter_reverse, List.head?_reverse,
    List.getLast?_map]

/-- A field that is not given twice is the member of its name. -/
lemma lookup_of_field? {members : Members} {name : String} {given : Option Json}
    (h : field? members name = some given) : lookup name members = given := by
  rw [lookup_eq_getLast?]
  unfold field? at h
  split at h <;> simp_all

/-- Two functions that agree on what was read and what it was read from, agree along a list. -/
lemma map_eq_map_of_mapM {α β γ : Type} {read : α → Option β} {f : α → γ} {g : β → γ}
    (agree : ∀ x y, read x = some y → f x = g y) {xs : List α} {ys : List β}
    (h : xs.mapM read = some ys) : xs.map f = ys.map g := by
  induction xs generalizing ys with
  | nil =>
    obtain rfl := Option.some.inj h
    rfl
  | cons x xs ih =>
    simp only [List.mapM_cons, Option.bind_eq_bind, Option.bind_eq_some_iff, Option.pure_def,
      Option.some.injEq] at h
    obtain ⟨y, hy, rest, hrest, rfl⟩ := h
    rw [List.map_cons, List.map_cons, agree x y hy, ih hrest]

/-- What is made of the fields of an object is made of its members of their names. -/
lemma of_bind_fields? {names : List String} {members : Members}
    {f : List (Option Json) → Option α} {a : α} (h : (fields? names (.obj members)).bind f = some a) :
    f (names.map (lookup · members)) = some a := by
  obtain ⟨given, hgiven, h⟩ := Option.bind_eq_some_iff.mp h
  have found : names.map (lookup · members) = given.map id :=
    map_eq_map_of_mapM (fun _ _ => lookup_of_field?) hgiven
  rwa [found, List.map_id]

/-! ### Fields given once or not at all -/

/-- No member has the name. -/
def Lacks (name : String) (members : Members) : Prop :=
  ∀ m ∈ members, m.1 ≠ name

/-- One member has the name, with that value. -/
def HasOne (name : String) (value : Json) (members : Members) : Prop :=
  ∃ before after, members = before ++ (name, value) :: after ∧ Lacks name before ∧ Lacks name after

/-- What a field is: absent, or the value of the one member of its name. -/
inductive Given (name : String) (members : Members) : Option Json → Prop
  | absent (lacks : Lacks name members) : Given name members none
  | once {value : Json} (one : HasOne name value members) : Given name members (some value)

section Given

variable {members members' : Members} {name : String} {value : Json}

lemma valuesOf_eq_nil : valuesOf name members = [] ↔ Lacks name members := by
  simp [valuesOf, Lacks]

lemma valuesOf_cons {m : String × Json} : valuesOf name (m :: members) =
    if m.1 = name then m.2 :: valuesOf name members else valuesOf name members := by
  by_cases h : m.1 = name <;> simp [valuesOf, h]

lemma valuesOf_eq_singleton : valuesOf name members = [value] ↔ HasOne name value members := by
  constructor
  · intro h
    induction members with
    | nil => cases h
    | cons m members ih =>
      rw [valuesOf_cons] at h
      by_cases hm : m.1 = name
      · rw [if_pos hm] at h
        obtain ⟨rfl, rest⟩ := List.cons.inj h
        exact ⟨[], members, by rw [← hm]; rfl, List.forall_mem_nil _, valuesOf_eq_nil.mp rest⟩
      · rw [if_neg hm] at h
        obtain ⟨before, after, rfl, hbefore, hafter⟩ := ih h
        exact ⟨m :: before, after, rfl, List.forall_mem_cons.mpr ⟨hm, hbefore⟩, hafter⟩
  · rintro ⟨before, after, rfl, hbefore, hafter⟩
    have append : valuesOf name (before ++ (name, value) :: after) =
        valuesOf name before ++ valuesOf name ((name, value) :: after) := by simp [valuesOf]
    rw [append, valuesOf_eq_nil.mpr hbefore, valuesOf_cons, if_pos rfl, valuesOf_eq_nil.mpr hafter]
    rfl

/-- A field is read unless it is given more than once. -/
lemma field?_eq_some {given : Option Json} :
    field? members name = some given ↔ Given name members given := by
  constructor
  · intro h
    unfold field? at h
    split at h
    case h_1 none =>
      cases h
      exact .absent (valuesOf_eq_nil.mp none)
    case h_2 value one =>
      cases h
      exact .once (valuesOf_eq_singleton.mp one)
    case h_3 => cases h
  · intro h
    unfold field?
    cases h with
    | absent lacks => rw [valuesOf_eq_nil.mpr lacks]
    | once one => rw [valuesOf_eq_singleton.mpr one]

/-- What a field is does not depend on the order of the members. -/
lemma field?_perm (h : members.Perm members') : field? members name = field? members' name := by
  have values : (valuesOf name members).Perm (valuesOf name members') := (h.filter _).map _
  unfold field?
  generalize valuesOf name members = vs at values
  generalize valuesOf name members' = vs' at values
  match vs, vs', values with
  | [], _, values => rw [List.nil_perm.mp values]
  | [_], _, values => rw [List.singleton_perm.mp values]
  | _ :: _ :: _, _ :: _ :: _, _ => rfl
  | _ :: _ :: _, [], values => cases values.length_eq
  | _ :: _ :: _, [_], values => cases values.length_eq

end Given

/-! ### Writing -/

lemma ofNat_inj {m n : Nat} : ofNat m = ofNat n ↔ m = n :=
  ⟨fun h => Int.ofNat.inj (Number.int.inj (num.inj h)), congrArg ofNat⟩

lemma ofOption_inj {write : α → Json} (inj : ∀ a b, write a = write b → a = b)
    (given : ∀ a, write a ≠ .null) {o o' : Option α} :
    ofOption write o = ofOption write o' ↔ o = o' := by
  refine ⟨fun h => ?_, congrArg _⟩
  cases o with
  | none =>
    cases o' with
    | none => rfl
    | some b => exact absurd h.symm (given b)
  | some a =>
    cases o' with
    | none => exact absurd h (given a)
    | some b => exact congrArg some (inj a b h)

/-! ### Writing what was read -/

/-- Writing a value that was read gives the plain form of what it was read from. -/
def Mirrors (read : Json → Option α) (plain : Json → Json) (write : α → Json) : Prop :=
  ∀ ⦃j a⦄, read j = some a → write a = plain j

lemma mirrors_string? : Mirrors string? id .str := by
  intro j s h
  cases j <;> simp_all [string?]

lemma mirrors_bool? : Mirrors bool? id .bool := by
  intro j b h
  cases j <;> simp_all [bool?]

lemma eq_of_int? {j : Json} {i : Int} (h : j.int? = some i) : j = .num (.int i) := by
  unfold int? at h
  split at h
  · cases h
    rfl
  · cases h

/-- A number below a bound comes back if its type keeps the numbers below it. -/
lemma mirrors_below {bound : Nat} {wrap : Nat → α} {unwrap : α → Nat}
    (keep : ∀ n < bound, unwrap (wrap n) = n) :
    Mirrors (fun j => (j.below? bound).map wrap) id (fun a => ofNat (unwrap a)) := by
  intro j a h
  obtain ⟨n, hn, rfl⟩ := Option.map_eq_some_iff.mp h
  unfold below? at hn
  split at hn
  · case h_1 m number =>
    obtain rfl := eq_of_int? number
    split at hn
    · case isTrue below =>
      obtain rfl := Option.some.inj hn
      change ofNat (unwrap (wrap m)) = ofNat m
      rw [keep m below]
    · cases hn
  · cases hn

lemma mirrors_uint16? : Mirrors uint16? id (ofNat ·.toNat) :=
  mirrors_below fun _ => UInt16.toNat_ofNat_of_lt'

lemma mirrors_uint32? : Mirrors uint32? id (ofNat ·.toNat) :=
  mirrors_below fun _ => UInt32.toNat_ofNat_of_lt'

lemma mirrors_uint64? : Mirrors uint64? id (ofNat ·.toNat) :=
  mirrors_below fun _ => UInt64.toNat_ofNat_of_lt'

lemma Mirrors.optional {read : Json → Option α} {write : α → Json} (m : Mirrors read id write) :
    Mirrors (optional? read) id (ofOption write) := by
  intro j o h
  unfold optional? at h
  split at h
  · obtain rfl := Option.some.inj h
    rfl
  · obtain ⟨a, ha, rfl⟩ := Option.map_eq_some_iff.mp h
    exact m ha

/-- A field is written as it was given, and as the value for an absent one if it was not. -/
lemma Mirrors.field {read : Json → Option α} {plain : Json → Json} {write : α → Json}
    (m : Mirrors read plain write) {absent a : α} {given : Option Json}
    (h : fieldOr absent read given = some a) :
    some (write a) = (given.map plain).or (some (write absent)) := by
  cases given with
  | none =>
    obtain rfl := Option.some.inj h
    rfl
  | some j =>
    rw [m h]
    rfl

end Sandboxes.Json
