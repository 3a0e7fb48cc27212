import Mathlib.Data.String.Basic
import Sandboxes.Json.Basic

/-!
# Looking up free-form data

Settling a value orders members and drops those that a later one of the same name hides. Neither
shows to whoever looks members up: what is found is what was found before, settled. Settling a value
twice is settling it once.
-/

namespace Sandboxes.Json

variable {name other : String} {value j : Json} {m : String × Json} {members : Members}

/-- A member counts unless a later one has its name. -/
lemma lookup_cons :
    lookup name (m :: members) =
      (lookup name members).or (if m.1 = name then some m.2 else none) := by
  by_cases h : m.1 = name <;> simp [lookup, List.find?_append, h]

/-- A member that is placed counts unless there was one of its name. -/
lemma lookup_place :
    lookup name (place other value members) =
      (lookup name members).or (if other = name then some value else none) := by
  induction members with
  | nil => exact lookup_cons
  | cons m members ih =>
    simp only [place]
    split
    · exact lookup_cons
    · split
      case isTrue same =>
        subst same
        rw [lookup_cons]
        by_cases h : m.1 = name <;> simp [h]
      case isFalse =>
        rw [lookup_cons, lookup_cons, ih]
        by_cases h : m.1 = name <;> by_cases h' : other = name <;>
          cases lookup name members <;> simp_all

lemma lookup_settleMembers :
    lookup name (settleMembers members) = (lookup name members).map settle := by
  induction members with
  | nil => rfl
  | cons m members ih =>
    obtain ⟨other, value⟩ := m
    simp only [settleMembers, settleMember, lookup_place, lookup_cons, ih]
    by_cases h : other = name <;> cases lookup name members <;> simp [h]

lemma get?_settle : j.settle.get? name = (j.get? name).map settle := by
  cases j with
  | obj members => exact lookup_settleMembers
  | _ => rfl

lemma settleItems_eq_map {items : List Json} : settleItems items = items.map settle := by
  induction items with
  | nil => rfl
  | cons j items ih => simp only [settleItems, ih, List.map_cons]

lemma string?_get {text : String} :
    (j.get name).string? = some text ↔ j.get? name = some (.str text) := by
  unfold get
  cases j.get? name with
  | none => simp [string?]
  | some value => cases value <;> simp [string?]

lemma get_eq_arr {items : List Json} :
    j.get name = .arr items ↔ j.get? name = some (.arr items) := by
  unfold get
  cases j.get? name <;> simp

lemma settle_eq_str {s : String} : j.settle = .str s ↔ j = .str s := by
  cases j <;> simp [settle]

lemma settle_eq_arr {items : List Json} :
    j.settle = .arr items ↔ ∃ given, j = .arr given ∧ items = given.map settle := by
  cases j with
  | arr given =>
    simp only [settle, settleItems_eq_map, arr.injEq]
    constructor
    · rintro rfl
      exact ⟨given, rfl, rfl⟩
    · rintro ⟨_, rfl, rfl⟩
      rfl
  | _ => simp [settle]

/-- A text is found in the settled value where it was found before. -/
lemma get?_settle_eq_str {s : String} :
    j.settle.get? name = some (.str s) ↔ j.get? name = some (.str s) := by
  simp only [get?_settle, Option.map_eq_some_iff, settle_eq_str, exists_eq_right]

/-- An array is found in the settled value where one was found before. -/
lemma get?_settle_eq_arr {items : List Json} :
    j.settle.get? name = some (.arr items) ↔
      ∃ given, j.get? name = some (.arr given) ∧ items = given.map settle := by
  simp only [get?_settle, Option.map_eq_some_iff, settle_eq_arr]
  constructor
  · rintro ⟨_, h, given, rfl, rfl⟩
    exact ⟨given, h, rfl⟩
  · rintro ⟨given, h, rfl⟩
    exact ⟨_, h, given, rfl, rfl⟩

lemma get_settle : j.settle.get name = (j.get name).settle := by
  unfold get
  rw [get?_settle]
  cases j.get? name <;> rfl

/-! ### Order of members -/

lemma mem_place (h : m ∈ place other value members) : m = (other, value) ∨ m ∈ members := by
  induction members with
  | nil => exact .inl (List.mem_singleton.mp h)
  | cons first members ih =>
    rw [place] at h
    split at h
    · exact List.mem_cons.mp h
    · split at h
      · exact .inr h
      · rcases List.mem_cons.mp h with h | h
        · exact .inr (h ▸ List.mem_cons_self)
        · exact (ih h).imp id (List.mem_cons_of_mem first)

lemma pairwise_place (h : members.Pairwise (·.1 < ·.1)) :
    (place other value members).Pairwise (·.1 < ·.1) := by
  induction members with
  | nil => exact List.pairwise_singleton ..
  | cons first members ih =>
    obtain ⟨below, rest⟩ := List.pairwise_cons.mp h
    rw [place]
    by_cases before : other < first.1
    · rw [if_pos before]
      refine List.pairwise_cons.mpr ⟨fun m hm => ?_, h⟩
      rcases List.mem_cons.mp hm with rfl | hm
      · exact before
      · exact lt_trans before (below m hm)
    · rw [if_neg before]
      by_cases same : other = first.1
      · rwa [if_pos same]
      · rw [if_neg same]
        have after : first.1 < other := (lt_or_gt_of_ne same).resolve_left before
        refine List.pairwise_cons.mpr ⟨fun m hm => ?_, ih rest⟩
        rcases mem_place hm with rfl | hm
        · exact after
        · exact below m hm

/-- Settled members are in the order of their names, and none is given twice. -/
lemma pairwise_settleMembers : (settleMembers members).Pairwise (·.1 < ·.1) := by
  induction members with
  | nil => exact List.Pairwise.nil
  | cons m members ih => exact pairwise_place ih

/-- A member that comes first is placed in front. -/
lemma place_of_forall_lt (h : ∀ m ∈ members, other < m.1) :
    place other value members = (other, value) :: members := by
  cases members with
  | nil => rfl
  | cons m members => rw [place, if_pos (h m List.mem_cons_self)]

/-- Members in order keep it when they are settled. -/
lemma settleMembers_of_pairwise (h : members.Pairwise (·.1 < ·.1)) :
    settleMembers members = members.map fun m => (m.1, m.2.settle) := by
  induction members with
  | nil => rfl
  | cons m members ih =>
    obtain ⟨below, rest⟩ := List.pairwise_cons.mp h
    rw [settleMembers, ih rest, place_of_forall_lt, List.map_cons]
    · cases m
      rfl
    · intro m' hm'
      obtain ⟨given, hgiven, rfl⟩ := List.mem_map.mp hm'
      exact below given hgiven

mutual

lemma settle_settle : (j : Json) → j.settle.settle = j.settle
  | .arr items => congrArg arr (settleItems_settleItems items)
  | .obj members => by
    refine congrArg obj ((settleMembers_of_pairwise pairwise_settleMembers).trans ?_)
    have same : ∀ m ∈ settleMembers members, (m.1, m.2.settle) = id m := fun m hm =>
      congrArg (Prod.mk m.1) (settle_of_mem_settleMembers members m hm)
    exact (List.map_congr_left same).trans (List.map_id _)
  | .null | .bool _ | .num _ | .str _ => rfl
termination_by structural j => j

lemma settleItems_settleItems : (items : List Json) →
    settleItems (settleItems items) = settleItems items
  | [] => rfl
  | j :: js => congrArg₂ List.cons (settle_settle j) (settleItems_settleItems js)
termination_by structural items => items

lemma settle_of_mem_settleMembers : (members : Members) →
    ∀ m ∈ settleMembers members, m.2.settle = m.2
  | [], _, h => absurd h List.not_mem_nil
  | m :: ms, m', h => by
    rcases mem_place h with rfl | h
    · exact settleMember_settle m
    · exact settle_of_mem_settleMembers ms m' h
termination_by structural members => members

lemma settleMember_settle (m : String × Json) : (settleMember m).settle = settleMember m := by
  cases m with
  | mk name j => exact settle_settle j
termination_by structural m

end

end Sandboxes.Json
