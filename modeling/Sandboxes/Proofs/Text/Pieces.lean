import Mathlib.Data.List.TakeWhile
import Sandboxes.Text.Blank
import Sandboxes.Text.Pieces

/-!
# Taking apart what was put together

Fields that were joined by a separator come back as they were if none of them contains it, and what
comes after a front comes back when the front is dropped.
-/

namespace Sandboxes.Text

variable {α : Type} [DecidableEq α] {a : α} {field rest : List α}

lemma fields_ne_nil : fields a rest ≠ [] := by
  cases rest with
  | nil => simp [fields]
  | cons b bs =>
    simp only [fields]
    split
    · simp
    · split <;> simp

lemma fields_cons_self : fields a (a :: rest) = [] :: fields a rest := by
  have ne : fields a rest ≠ [] := fields_ne_nil
  simp only [fields]
  split
  · contradiction
  · simp [*]

lemma fields_cons_of_ne {b : α} {first : List α} {others : List (List α)} (h : b ≠ a)
    (rec : fields a rest = first :: others) : fields a (b :: rest) = (b :: first) :: others := by
  simp [fields, rec, h]

lemma fields_of_not_mem (h : a ∉ field) : fields a field = [field] := by
  induction field with
  | nil => rfl
  | cons b bs ih =>
    simp only [List.mem_cons, not_or] at h
    exact fields_cons_of_ne (Ne.symm h.1) (ih h.2)

lemma fields_append_cons (h : a ∉ field) : fields a (field ++ a :: rest) = field :: fields a rest := by
  induction field with
  | nil => exact fields_cons_self
  | cons b bs ih =>
    simp only [List.mem_cons, not_or] at h
    exact fields_cons_of_ne (Ne.symm h.1) (ih h.2)

lemma fields_append_flatMap {others : List (List α)} (h : ∀ f ∈ field :: others, a ∉ f) :
    fields a (field ++ others.flatMap (a :: ·)) = field :: others := by
  induction others generalizing field with
  | nil => simpa using fields_of_not_mem (h field (by simp))
  | cons f fs ih =>
    rw [List.flatMap_cons, List.cons_append, fields_append_cons (h field (by simp)), ih]
    intro g hg
    exact h g (List.mem_cons_of_mem _ hg)

/-- The fields with their separators are the whole list. -/
lemma eq_of_fields {others : List (List α)} (h : fields a rest = field :: others) :
    rest = field ++ others.flatMap (a :: ·) := by
  induction rest generalizing field others with
  | nil =>
    cases h
    rfl
  | cons b rest ih =>
    obtain ⟨first, more, hf⟩ : ∃ first more, fields a rest = first :: more :=
      List.exists_cons_of_ne_nil fields_ne_nil
    have whole := ih hf
    by_cases hb : b = a
    · subst hb
      rw [fields_cons_self, hf] at h
      cases h
      rw [whole]
      rfl
    · rw [fields_cons_of_ne hb hf] at h
      cases h
      rw [whole]
      rfl

/-- Fields that are put behind a list come after those of the list. -/
lemma fields_append_flatMap_of_forall {front : List α} {others : List (List α)}
    (h : ∀ f ∈ others, a ∉ f) :
    fields a (front ++ others.flatMap (a :: ·)) = fields a front ++ others := by
  induction front with
  | nil =>
    have free : ∀ f ∈ [] :: others, a ∉ f := by simpa using h
    exact fields_append_flatMap free
  | cons b front ih =>
    by_cases hb : b = a
    · subst hb
      rw [List.cons_append, fields_cons_self, fields_cons_self, ih, List.cons_append]
    · obtain ⟨first, rest, hf⟩ : ∃ first rest, fields a front = first :: rest :=
        List.exists_cons_of_ne_nil fields_ne_nil
      rw [hf, List.cons_append] at ih
      rw [List.cons_append, fields_cons_of_ne hb ih, fields_cons_of_ne hb hf, List.cons_append]

lemma splitFirst?_of_not_mem (h : a ∉ rest) : splitFirst? a rest = none := by
  induction rest with
  | nil => rfl
  | cons b bs ih =>
    simp only [List.mem_cons, not_or] at h
    rw [splitFirst?, if_neg (Ne.symm h.1), ih h.2, Option.map_none]

lemma splitFirst?_append_cons (h : a ∉ field) :
    splitFirst? a (field ++ a :: rest) = some (field, rest) := by
  induction field with
  | nil => rw [List.nil_append, splitFirst?, if_pos rfl]
  | cons b bs ih =>
    simp only [List.mem_cons, not_or] at h
    rw [List.cons_append, splitFirst?, if_neg (Ne.symm h.1), ih h.2]
    rfl

lemma splitLast?_eq_none : splitLast? a rest = none ↔ a ∉ rest := by
  induction rest with
  | nil => simp [splitLast?]
  | cons b bs ih =>
    rw [splitLast?, List.mem_cons, not_or]
    cases h : splitLast? a bs with
    | none => simpa [ih.mp h] using ne_comm
    | some split =>
      have present : a ∈ bs := Classical.byContradiction fun absent => by
        rw [ih.mpr absent] at h
        cases h
      simp [present]

lemma splitLast?_append_cons (h : a ∉ field) :
    splitLast? a (rest ++ a :: field) = some (rest, field) := by
  induction rest with
  | nil => rw [List.nil_append, splitLast?, splitLast?_eq_none.mpr h, if_pos rfl]
  | cons b bs ih => rw [List.cons_append, splitLast?, ih]

lemma splitLast?_eq_some {whole : List α} :
    splitLast? a whole = some (rest, field) ↔ whole = rest ++ a :: field ∧ a ∉ field := by
  constructor
  · intro h
    induction whole generalizing rest with
    | nil => cases h
    | cons b bs ih =>
      rw [splitLast?] at h
      cases hs : splitLast? a bs with
      | some split =>
        rw [hs] at h
        cases h
        obtain ⟨rfl, absent⟩ := ih hs
        exact ⟨rfl, absent⟩
      | none =>
        rw [hs] at h
        by_cases hb : b = a
        · subst hb
          rw [if_pos rfl] at h
          cases h
          exact ⟨rfl, splitLast?_eq_none.mp hs⟩
        · rw [if_neg hb] at h
          cases h
  · rintro ⟨rfl, absent⟩
    exact splitLast?_append_cons absent

lemma dropFront?_append (front rest : List α) : dropFront? front (front ++ rest) = some rest := by
  induction front with
  | nil => cases rest <;> rfl
  | cons a front ih => simp [dropFront?, ih]

lemma dropFront?_eq_some {front whole : List α} :
    dropFront? front whole = some rest ↔ whole = front ++ rest := by
  constructor
  · intro h
    induction front generalizing whole with
    | nil => simpa [dropFront?] using h
    | cons a front ih =>
      cases whole with
      | nil => simp [dropFront?] at h
      | cons b bs =>
        rw [dropFront?] at h
        by_cases hab : a = b
        · rw [if_pos hab] at h
          rw [hab, ih h, List.cons_append]
        · rw [if_neg hab] at h
          cases h
  · rintro rfl
    exact dropFront?_append front rest

/-! ### Trimming -/

section Trimming

variable {p : Char → Bool} {front word back cs : List Char}

lemma dropWhile_of_forall (h : ∀ c ∈ cs, p c = false) : cs.dropWhile p = cs := by
  cases cs with
  | nil => rfl
  | cons c cs => exact List.dropWhile_cons_of_neg (by simp [h c])

/-- Nothing is taken away from between two words. -/
lemma trimBy_of_ends (hfront : front ≠ []) (hback : back ≠ []) (first : ∀ c ∈ front, p c = false)
    (last : ∀ c ∈ back, p c = false) : trimBy p (front ++ cs ++ back) = front ++ cs ++ back := by
  have stays {word : List Char} (rest : List Char) (ne : word ≠ [])
      (h : ∀ c ∈ word, p c = false) : (word ++ rest).dropWhile p = word ++ rest := by
    obtain ⟨c, word, rfl⟩ := List.exists_cons_of_ne_nil ne
    exact List.dropWhile_cons_of_neg (by simp [h c])
  have reversed : (front ++ cs ++ back).reverse = back.reverse ++ (front ++ cs).reverse :=
    List.reverse_append
  rw [trimBy, List.append_assoc, stays _ hfront first, ← List.append_assoc, reversed,
    stays _ (by simpa using hback) (by simpa using last), ← reversed, List.reverse_reverse]

/-- Nothing but what satisfies the test is taken away. -/
lemma exists_trimBy (p : Char → Bool) (cs : List Char) :
    ∃ front back, cs = front ++ trimBy p cs ++ back ∧ (∀ c ∈ front, p c = true) ∧
      ∀ c ∈ back, p c = true := by
  have taken {l : List Char} : ∀ c ∈ l.takeWhile p, p c = true := fun c hc =>
    List.mem_takeWhile_imp hc
  refine ⟨cs.takeWhile p, ((cs.dropWhile p).reverse.takeWhile p).reverse, ?_, taken, ?_⟩
  · rw [trimBy, List.append_assoc, ← List.reverse_append, List.takeWhile_append_dropWhile,
      List.reverse_reverse, List.takeWhile_append_dropWhile]
  · intro c hc
    exact taken c (List.mem_reverse.mp hc)

/-- What stands around a word is taken away. -/
lemma trimBy_append (hfront : ∀ c ∈ front, p c = true) (hback : ∀ c ∈ back, p c = true)
    (hword : ∀ c ∈ word, p c = false) : trimBy p (front ++ word ++ back) = word := by
  have hback' : ∀ c ∈ back.reverse, p c = true := by simpa using hback
  rw [trimBy, List.append_assoc, List.dropWhile_append_of_pos hfront]
  cases word with
  | nil =>
    rw [List.nil_append, List.dropWhile_eq_nil_iff.mpr hback]
    rfl
  | cons c word =>
    have first : ((c :: word) ++ back).dropWhile p = (c :: word) ++ back :=
      List.dropWhile_cons_of_neg (by simp [hword c])
    rw [first, List.reverse_append, List.dropWhile_append_of_pos hback',
      dropWhile_of_forall fun d hd => hword d (List.mem_reverse.mp hd), List.reverse_reverse]

end Trimming

end Sandboxes.Text
