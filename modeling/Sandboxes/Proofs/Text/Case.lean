import Mathlib.Tactic.Lemma
import Sandboxes.Text.Case

/-!
# Lower-casing to ASCII

Two characters beyond ASCII are lower-cased to text with an ASCII letter in it: the Kelvin sign, which
becomes a `k`, and the capital I with a dot, which becomes an `i` and a combining dot. A word of other
ASCII characters is therefore the lower case of nothing but the same word in another ASCII case.
-/

namespace Sandboxes.Text

variable {c : Char} {m n : Nat} {before cs word : List Char} {r : CaseRun}

/-! ### Runs of the table -/

/-- The run of the ASCII capitals. -/
def asciiRun : CaseRun := ⟨0x41, 0x5A, 1, 32⟩

/-- The run of the Kelvin sign. -/
def kelvinRun : CaseRun := ⟨0x212A, 0x212A, 1, -8383⟩

/-- The run leads from characters beyond ASCII to characters beyond ASCII. -/
def CaseRun.IsForeign (r : CaseRun) : Prop :=
  0x80 ≤ r.first ∧ 0x80 ≤ r.first + r.shift ∧
    (r.last + r.shift < 0xD800 ∨ 0xDFFF < r.first + r.shift ∧ r.last + r.shift < 0x110000)

instance (r : CaseRun) : Decidable r.IsForeign :=
  inferInstanceAs (Decidable (_ ∧ _))

lemma lowerRuns_eq : lowerRuns = asciiRun :: lowerRuns.tail := rfl

lemma of_mem_tail : ∀ r ∈ lowerRuns.tail, r = kelvinRun ∨ r.IsForeign := by
  decide +kernel

lemma CaseRun.lower?_eq_some (h : r.lower? n = some m) :
    r.first ≤ n ∧ n ≤ r.last ∧ m = Int.toNat (n + r.shift) := by
  unfold lower? at h
  split at h
  case isTrue covered =>
    simp only [Bool.and_eq_true, decide_eq_true_eq] at covered
    exact ⟨covered.1.1, covered.1.2, (Option.some.inj h).symm⟩
  case isFalse => cases h

/-! ### Single characters -/

/-- Only the first run covers ASCII characters. -/
lemma findSome?_lowerRuns (h : n < 0x80) : lowerRuns.findSome? (·.lower? n) = asciiRun.lower? n := by
  have others : lowerRuns.tail.findSome? (·.lower? n) = none := by
    refine List.findSome?_eq_none_iff.mpr fun r mem => Option.eq_none_iff_forall_ne_some.mpr ?_
    intro m lower
    have low := (CaseRun.lower?_eq_some lower).1
    obtain rfl | foreign := of_mem_tail r mem
    · have : 0x212A ≤ n := low
      omega
    · have := foreign.1
      omega
  rw [lowerRuns_eq, List.findSome?_cons, others]
  cases asciiRun.lower? n <;> rfl

lemma lowerChar_of_ascii (h : c.toNat < 0x80) : lowerChar c = [c.toLower] := by
  have all : ∀ n < 0x80, Char.ofNat ((asciiRun.lower? n).getD n) = (Char.ofNat n).toLower := by
    decide +kernel
  have dotted : c.toNat ≠ 0x130 := by omega
  have here := all c.toNat h
  rw [Char.ofNat_toNat] at here
  rw [lowerChar, if_neg dotted, findSome?_lowerRuns h, ← here]
  cases asciiRun.lower? c.toNat with
  | none => rw [Option.getD_none, Char.ofNat_toNat]
  | some n => rfl

lemma toLower_of_not_ascii (h : 0x80 ≤ c.toNat) : c.toLower = c := by
  refine dif_neg fun ⟨_, capital⟩ => ?_
  have capital : c.toNat ≤ 0x5A := capital
  omega

/-- No character beyond ASCII is lower-cased to ASCII characters other than a `k`. -/
lemma exists_mem_lowerChar (h : 0x80 ≤ c.toNat) : ∃ d ∈ lowerChar c, d = 'k' ∨ 0x80 ≤ d.toNat := by
  unfold lowerChar
  split
  · exact ⟨Char.ofNat 0x307, by simp, .inr (by decide)⟩
  · split
    case h_1 n found =>
      refine ⟨.ofNat n, List.mem_singleton_self _, ?_⟩
      obtain ⟨r, mem, lower⟩ := List.exists_of_findSome?_eq_some found
      obtain ⟨low, high, rfl⟩ := CaseRun.lower?_eq_some lower
      rw [lowerRuns_eq, List.mem_cons] at mem
      obtain rfl | rfl | ⟨-, beyond, valid⟩ := mem.imp_right (of_mem_tail r)
      · have : c.toNat ≤ 0x5A := high
        omega
      · have kelvin : c.toNat = 0x212A := Nat.le_antisymm high low
        rw [kelvin]
        exact .inl rfl
      · right
        have isValid : Nat.isValidChar (Int.toNat (c.toNat + r.shift)) := by
          unfold Nat.isValidChar
          omega
        have number : (Char.ofNat (Int.toNat (c.toNat + r.shift))).toNat =
            Int.toNat (c.toNat + r.shift) := by
          rw [Char.ofNat, dif_pos isValid]
          rfl
        omega
    case h_2 => exact ⟨c, List.mem_singleton_self c, .inr h⟩

/-! ### Words -/

lemma exists_mem_lowerFrom (h : 0x80 ≤ c.toNat) :
    ∃ d ∈ lowerFrom before (c :: cs), d = 'k' ∨ 0x80 ≤ d.toNat := by
  rw [lowerFrom]
  by_cases sigma : c = 'Σ'
  · refine ⟨_, List.mem_append_left _ (by rw [if_pos sigma]; exact List.mem_singleton_self _), ?_⟩
    right
    split <;> decide
  · obtain ⟨d, mem, beyond⟩ := exists_mem_lowerChar h
    exact ⟨d, List.mem_append_left _ (by rwa [if_neg sigma]), beyond⟩

/-- An ASCII word without a `k` is the lower case of the same word in any ASCII case, and of nothing
else. -/
theorem lowerFrom_eq_iff (plain : ∀ d ∈ word, d.toNat < 0x80 ∧ d ≠ 'k') :
    lowerFrom before cs = word ↔ cs.map Char.toLower = word := by
  induction cs generalizing before word with
  | nil => rw [lowerFrom, List.map_nil]
  | cons c cs ih =>
    by_cases ascii : c.toNat < 0x80
    · have sigma : c ≠ 'Σ' := by
        rintro rfl
        exact absurd ascii (by decide)
      rw [lowerFrom, if_neg sigma, lowerChar_of_ascii ascii, List.map_cons, List.singleton_append]
      cases word with
      | nil => simp
      | cons d word => rw [List.cons.injEq, List.cons.injEq, ih fun e he => plain e (.tail d he)]
    · have beyond := Nat.le_of_not_lt ascii
      refine iff_of_false ?_ ?_
      · rintro rfl
        obtain ⟨d, mem, foreign⟩ : ∃ d ∈ lowerFrom before (c :: cs), d = 'k' ∨ 0x80 ≤ d.toNat :=
          exists_mem_lowerFrom beyond
        have := plain d mem
        rcases foreign with rfl | foreign
        · exact this.2 rfl
        · omega
      · rintro rfl
        have := (plain c.toLower (List.mem_cons_self ..)).1
        rw [toLower_of_not_ascii beyond] at this
        exact ascii this

end Sandboxes.Text
