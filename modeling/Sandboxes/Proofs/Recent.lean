import Mathlib.Tactic.Lemma
import Sandboxes.Recent

/-!
# Recency

What looking up, inserting and erasing do to the entries of a bounded map and to their order. A list
of keys that is kept in the order of their last use does not forget any key; the keys of the map are
always some of it, in that order.
-/

namespace Sandboxes

variable {κ α : Type} [DecidableEq κ]

/-! ### Keys by their last use -/

/-- The keys in the order of their last use, the latest first, after a use of `k`. -/
def used (k : κ) (ks : List κ) : List κ :=
  k :: ks.filter (· ≠ k)

section Used

variable {k : κ} {ks ls : List κ}

lemma sublist_used (h : ks.Sublist ls) : (used k ks).Sublist (used k ls) :=
  (h.filter _).cons_cons k

lemma nodup_used (h : ks.Nodup) : (used k ks).Nodup := by
  refine List.nodup_cons.mpr ⟨?_, h.filter _⟩
  simp

/-- No key gets lost. -/
lemma length_le_used (h : ks.Nodup) : ks.length ≤ (used k ks).length := by
  have erased : ks.filter (· ≠ k) = ks.erase k := by
    rw [h.erase_eq_filter]
    refine List.filter_congr fun x _ => ?_
    by_cases hx : x = k <;> simp [hx]
  rw [used, List.length_cons, erased, List.length_erase]
  split <;> omega

lemma filter_used_of_ne {l : κ} (h : k ≠ l) :
    (used k ks).filter (· ≠ l) = used k (ks.filter (· ≠ l)) := by
  rw [used, used, List.filter_cons_of_pos (by simpa using h), List.filter_filter, List.filter_filter]
  simp only [Bool.and_comm]

lemma filter_used_self : (used k ks).filter (· ≠ k) = ks.filter (· ≠ k) := by
  simp [used, List.filter_filter]

/-- What the first `n` keys are after a use depends on the first `n` keys only. -/
lemma take_used_take {n : Nat} (nodup : ks.Nodup) :
    (used k (ks.take n)).take n = (used k ks).take n := by
  rcases Nat.lt_or_ge ks.length n with short | long
  · rw [List.take_of_length_le (Nat.le_of_lt short)]
  · cases n with
    | zero => simp
    | succ n =>
      have enough : n ≤ ((ks.take (n + 1)).filter (· ≠ k)).length := by
        have le := length_le_used (k := k) (nodup.sublist (List.take_sublist (n + 1) ks))
        rw [used, List.length_cons, List.length_take, Nat.min_eq_left long] at le
        omega
      have parts : ks.filter (· ≠ k) =
          (ks.take (n + 1)).filter (· ≠ k) ++ (ks.drop (n + 1)).filter (· ≠ k) := by
        rw [← List.filter_append, List.take_append_drop]
      rw [used, used, List.take_succ_cons, List.take_succ_cons, parts,
        List.take_append_of_le_length enough]

lemma eraseDups_filter (p : κ → Bool) (ks : List κ) :
    (ks.filter p).eraseDups = ks.eraseDups.filter p := by
  match ks with
  | [] => simp
  | k :: ks =>
    have ih := eraseDups_filter p (ks.filter fun l => !l == k)
    rw [List.eraseDups_cons, List.filter_cons, List.filter_cons]
    split
    · rw [List.eraseDups_cons, ← ih, List.filter_filter, List.filter_filter]
      simp only [Bool.and_comm]
    · next hk =>
      rw [← ih, List.filter_filter]
      congr 1
      refine List.filter_congr fun l _ => ?_
      by_cases hl : l = k
      · subst hl
        simpa using hk
      · simp [hl]
termination_by ks.length
decreasing_by
  have := List.length_filter_le (fun l => !l == k) ks
  simp only [List.length_cons]
  omega

/-- Without its repetitions, a list of uses with the latest first is in the order of the last use. -/
lemma eraseDups_cons_eq_used : (k :: ks).eraseDups = used k ks.eraseDups := by
  rw [List.eraseDups_cons, eraseDups_filter, used]
  congr 1
  refine List.filter_congr fun l _ => ?_
  by_cases hl : l = k <;> simp [hl]

lemma nodup_eraseDups (ks : List κ) : ks.eraseDups.Nodup := by
  induction ks with
  | nil => simp
  | cons k ks ih =>
    rw [eraseDups_cons_eq_used]
    exact nodup_used ih

end Used

namespace Recent

variable {m : Recent κ α} {k l : κ} {a b : α}

/-! ### Looking up -/

lemma find?_eq_none : m.find? k = none ↔ k ∉ m.keys := by
  simp only [find?, keys, Option.map_eq_none_iff, List.find?_eq_none, List.mem_map, not_exists,
    not_and, decide_eq_true_eq]

lemma mem_entries_of_find? (h : m.find? k = some a) : (k, a) ∈ m.entries := by
  obtain ⟨⟨k', a'⟩, hfind, rfl⟩ := Option.map_eq_some_iff.mp h
  have hk : k' = k := by simpa using List.find?_some hfind
  subst hk
  exact List.mem_of_find?_eq_some hfind

lemma find?_eq_some_of_split {before after : List (κ × α)}
    (h : m.entries = before ++ (k, a) :: after) (hk : k ∉ before.map Prod.fst) :
    m.find? k = some a := by
  have none : before.find? (·.1 = k) = none := by
    refine List.find?_eq_none.mpr fun x hx hxk => hk ?_
    exact List.mem_map.mpr ⟨x, hx, by simpa using hxk⟩
  simp [find?, h, none]

lemma keys_others : (m.others k).map Prod.fst = m.keys.filter (· ≠ k) := by
  simp only [others, keys, List.filter_map]
  rfl

lemma mem_others {x : κ × α} : x ∈ m.others k ↔ x ∈ m.entries ∧ x.1 ≠ k := by
  simp [others]

lemma others_of_not_mem (h : k ∉ m.keys) : m.others k = m.entries := by
  refine List.filter_eq_self.mpr fun x hx => ?_
  have : x.1 ≠ k := fun hk => h (hk ▸ List.mem_map_of_mem hx)
  simpa using this

lemma touch_of_find?_eq_none (h : m.find? k = none) : m.touch k = m := by
  simp [touch, h]

lemma entries_touch (h : m.find? k = some a) : (m.touch k).entries = (k, a) :: m.others k := by
  simp [touch, h]

@[simp] lemma capacity_touch : (m.touch k).capacity = m.capacity := by
  unfold touch
  split <;> rfl

@[simp] lemma capacity_insert : (m.insert k a).capacity = m.capacity := rfl

@[simp] lemma capacity_erase : (m.erase k).capacity = m.capacity := rfl

/-! ### Entries -/

lemma mem_entries_touch {x : κ × α} (h : x ∈ (m.touch k).entries) : x ∈ m.entries := by
  cases hf : m.find? k with
  | none => rwa [touch_of_find?_eq_none hf] at h
  | some a =>
    rw [entries_touch hf] at h
    rcases List.mem_cons.mp h with rfl | h
    · exact mem_entries_of_find? hf
    · exact (mem_others.mp h).1

lemma mem_entries_insert {x : κ × α} (h : x ∈ (m.insert k a).entries) :
    x = (k, a) ∨ x ∈ m.entries := by
  rcases List.mem_cons.mp (List.mem_of_mem_take h) with h | h
  · exact .inl h
  · exact .inr (mem_others.mp h).1

lemma mem_entries_erase {x : κ × α} : x ∈ (m.erase k).entries ↔ x ∈ m.entries ∧ x.1 ≠ k :=
  mem_others

/-! ### Keys -/

lemma keys_touch (h : m.find? k = some a) : (m.touch k).keys = used k m.keys := by
  rw [keys, entries_touch h, List.map_cons, keys_others, used]

lemma keys_insert : (m.insert k a).keys = (used k m.keys).take m.capacity := by
  rw [keys, insert, List.map_take, List.map_cons, keys_others, used]

lemma keys_erase : (m.erase k).keys = m.keys.filter (· ≠ k) :=
  keys_others

/-- There is room for one entry at least, there are not more entries than there is room, and no two
entries have the same key. -/
structure Valid (m : Recent κ α) : Prop where
  pos : 0 < m.capacity
  size_le : m.size ≤ m.capacity
  nodup : m.keys.Nodup

omit [DecidableEq κ] in
lemma valid_empty (capacity : Nat) : (empty capacity : Recent κ α).Valid where
  pos := by simp only [empty]; omega
  size_le := Nat.zero_le _
  nodup := List.nodup_nil

omit [DecidableEq κ] in
lemma size_eq : m.size = m.keys.length := by
  simp [size, keys]

lemma Valid.touch (h : m.Valid) : (m.touch k).Valid := by
  cases hf : m.find? k with
  | none => rwa [touch_of_find?_eq_none hf]
  | some a =>
    refine ⟨by simpa using h.pos, ?_, by rw [keys_touch hf]; exact nodup_used h.nodup⟩
    have hk : k ∈ m.keys := List.mem_map.mpr ⟨(k, a), mem_entries_of_find? hf, rfl⟩
    have fewer : (m.keys.filter (· ≠ k)).length < m.keys.length :=
      List.length_filter_lt_length_iff_exists.mpr ⟨k, hk, by simp⟩
    have le := h.size_le
    rw [size_eq] at le ⊢
    rw [keys_touch hf, capacity_touch, used, List.length_cons]
    omega

lemma Valid.insert (h : m.Valid) : (m.insert k a).Valid where
  pos := h.pos
  size_le := List.length_take_le _ _
  nodup := by
    rw [keys_insert]
    exact (nodup_used h.nodup).sublist (List.take_sublist _ _)

lemma Valid.erase (h : m.Valid) : (m.erase k).Valid where
  pos := h.pos
  size_le := Nat.le_trans (List.length_filter_le _ _) h.size_le
  nodup := by
    rw [keys_erase]
    exact h.nodup.filter _

/-- Inserting a new key into a full map drops the last one, and no other key. -/
lemma Valid.entries_insert (h : m.Valid) (new : k ∉ m.keys) :
    (m.insert k a).entries =
      (k, a) :: if m.size < m.capacity then m.entries else m.entries.dropLast := by
  have pos := h.pos
  have le := h.size_le
  rw [Recent.insert, others_of_not_mem new]
  obtain ⟨n, hn⟩ : ∃ n, m.capacity = n + 1 := ⟨m.capacity - 1, by omega⟩
  rw [size] at le ⊢
  simp only [hn, List.take_succ_cons]
  split
  · rw [List.take_of_length_le (by omega)]
  · rw [List.dropLast_eq_take]
    congr 2
    omega

/-! ### Entries that stay -/

/-- There is an entry of `k`, and the keys that were used later are some of `ks`, in that order. -/
def Holds (m : Recent κ α) (k : κ) (a : α) (ks : List κ) : Prop :=
  ∃ before after, m.entries = before ++ (k, a) :: after ∧ (before.map Prod.fst).Sublist ks

variable {ks : List κ}

omit [DecidableEq κ] in
lemma Holds.mono {ls : List κ} (h : m.Holds k a ks) (hks : ks.Sublist ls) : m.Holds k a ls := by
  obtain ⟨before, after, entries, later⟩ := h
  exact ⟨before, after, entries, later.trans hks⟩

lemma Holds.find? (h : m.Holds k a ks) (hk : k ∉ ks) : m.find? k = some a := by
  obtain ⟨before, after, entries, later⟩ := h
  exact find?_eq_some_of_split entries fun hm => hk (later.subset hm)

lemma holds_touch_self (h : m.find? k = some a) : (m.touch k).Holds k a [] :=
  ⟨[], m.others k, entries_touch h, List.Sublist.refl _⟩

lemma holds_insert_self (h : m.Valid) : (m.insert k a).Holds k a [] := by
  obtain ⟨n, hn⟩ : ∃ n, m.capacity = n + 1 := ⟨m.capacity - 1, by have := h.pos; omega⟩
  exact ⟨[], (m.others k).take n, by simp [Recent.insert, hn], List.Sublist.refl _⟩

lemma Holds.others (h : m.Holds k a ks) (ne : l ≠ k) :
    ∃ before after, m.others l = before ++ (k, a) :: after ∧
      (before.map Prod.fst).Sublist (ks.filter (· ≠ l)) := by
  obtain ⟨before, after, entries, later⟩ := h
  refine ⟨before.filter (·.1 ≠ l), after.filter (·.1 ≠ l), ?_, ?_⟩
  · rw [Recent.others, entries, List.filter_append, List.filter_cons_of_pos (by simpa using ne.symm)]
  · have := later.filter (· ≠ l)
    rwa [List.filter_map] at this

lemma Holds.erase (h : m.Holds k a ks) (ne : l ≠ k) : (m.erase l).Holds k a ks := by
  obtain ⟨before, after, entries, later⟩ := h.others ne
  exact ⟨before, after, entries, later.trans List.filter_sublist⟩

lemma Holds.touch (h : m.Holds k a ks) (ne : l ≠ k) : (m.touch l).Holds k a (used l ks) := by
  obtain ⟨before, after, entries, later⟩ := h.others ne
  cases hf : m.find? l with
  | none =>
    rw [touch_of_find?_eq_none hf]
    rw [others_of_not_mem (find?_eq_none.mp hf)] at entries
    exact ⟨before, after, entries, later.cons l⟩
  | some b => exact ⟨(l, b) :: before, after, by rw [entries_touch hf, entries]; rfl, later.cons_cons l⟩

/-- An entry stays while fewer keys than there is room were used later. -/
lemma Holds.insert (h : m.Holds k a ks) (ne : l ≠ k) (room : (used l ks).length < m.capacity) :
    (m.insert l b).Holds k a (used l ks) := by
  obtain ⟨before, after, entries, later⟩ := h.others ne
  have few : ((l, b) :: before).length < m.capacity := by
    have later := (later.cons_cons l).length_le
    simp only [List.length_cons, List.length_map] at later ⊢
    exact Nat.lt_of_le_of_lt later room
  obtain ⟨n, hn⟩ : ∃ n, m.capacity - ((l, b) :: before).length = n + 1 :=
    ⟨m.capacity - ((l, b) :: before).length - 1, by omega⟩
  refine ⟨(l, b) :: before, after.take n, ?_, later.cons_cons l⟩
  rw [Recent.insert, entries, ← List.cons_append, List.take_append, hn, List.take_succ_cons,
    List.take_of_length_le (Nat.le_of_lt few)]

end Recent

end Sandboxes
