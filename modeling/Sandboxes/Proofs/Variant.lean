import Sandboxes.Failure
import Sandboxes.Proofs.Text.Case
import Sandboxes.Proofs.Text.Pieces

/-!
# Tags of variants

A tag names a variant if it is the variant's word in any ASCII case, with white space around it or not.
No character beyond ASCII passes for a letter of such a word, although tags are lower-cased by the full
Unicode mapping.
-/

namespace Sandboxes.Variant

open Text

variable {v w : Variant} {s : String} {c : Char}

/-- The text is the word of the variant in any ASCII case, between white space that may be absent. -/
def Spells (v : Variant) (s : String) : Prop :=
  ∃ front word back, s.toList = front ++ word ++ back ∧ (∀ c ∈ front, isBlank c = true) ∧
    (∀ c ∈ back, isBlank c = true) ∧ word.map Char.toLower = v.name.toList

lemma name_injective (h : v.name = w.name) : v = w := by
  revert h
  cases v <;> cases w <;> decide

/-! ### Words -/

lemma lower_eq_name : lower s = v.name ↔ s.toList.map Char.toLower = v.name.toList := by
  have plain : v.name.toList.all (fun c => c.toNat < 0x80 ∧ c ≠ 'k') = true := by cases v <;> decide
  rw [lower, ← String.toList_inj, String.toList_ofList]
  exact lowerFrom_eq_iff fun c mem => of_decide_eq_true (List.all_eq_true.mp plain c mem)

lemma toLower_of_isBlank (h : isBlank c = true) : c.toLower = c := by
  refine dif_neg fun ⟨low, high⟩ => ?_
  have low : 0x41 ≤ c.toNat := low
  have high : c.toNat ≤ 0x5A := high
  simp only [isBlank, Bool.or_eq_true, Bool.and_eq_true, decide_eq_true_eq, beq_iff_eq] at h
  omega

/-- There is no white space in the word of a variant. -/
lemma not_isBlank_of_mem {word : List Char} (h : word.map Char.toLower = v.name.toList)
    (mem : c ∈ word) : isBlank c = false := by
  have dark : v.name.toList.all (!isBlank ·) = true := by cases v <;> decide
  refine Bool.eq_false_iff.mpr fun blank => ?_
  have mem : c.toLower ∈ v.name.toList := h ▸ List.mem_map_of_mem mem
  rw [toLower_of_isBlank blank] at mem
  have := List.all_eq_true.mp dark c mem
  simp [blank] at this

/-! ### Tags -/

lemma spells_iff : v.Spells s ↔ lower (trim s) = v.name := by
  rw [lower_eq_name, trim, String.toList_ofList]
  constructor
  · rintro ⟨front, word, back, whole, hfront, hback, hword⟩
    rw [whole, trimBy_append hfront hback fun c => not_isBlank_of_mem hword]
    exact hword
  · intro h
    obtain ⟨front, back, whole, hfront, hback⟩ := exists_trimBy isBlank s.toList
    exact ⟨front, _, back, whole, hfront, hback, h⟩

lemma ofTag?_eq_some : ofTag? s = some v ↔ v.Spells s := by
  rw [spells_iff, ofTag?]
  constructor
  · intro h
    simpa [eq_comm] using List.find?_some h
  · intro h
    cases found : all.find? (·.name = lower (trim s)) with
    | none =>
      have := List.find?_eq_none.mp found v (by cases v <;> decide)
      simp [h] at this
    | some w =>
      have same : w.name = lower (trim s) := by simpa using List.find?_some found
      rw [name_injective (same.trans h)]

lemma parse_eq_ok : parse s = .ok v ↔ v.Spells s := by
  rw [← ofTag?_eq_some, parse]
  cases ofTag? s <;> simp

lemma ofTag?_of_parse (h : parse s = .ok v) : ofTag? s = some v :=
  ofTag?_eq_some.mpr (parse_eq_ok.mp h)

lemma parse_of_ofTag? (h : ofTag? s = none) : parse s = .error (.unsupportedTag s) := by
  rw [parse, h]

lemma parse_of_not_spells (h : ∀ v : Variant, ¬ v.Spells s) : parse s = .error (.unsupportedTag s) := by
  cases found : ofTag? s with
  | none => exact parse_of_ofTag? found
  | some v => exact absurd (ofTag?_eq_some.mp found) (h v)

lemma spells_name (v : Variant) : v.Spells v.name := by
  refine ⟨[], v.name.toList, [], (List.append_nil _).symm, by simp, by simp, ?_⟩
  cases v <;> decide

end Sandboxes.Variant
