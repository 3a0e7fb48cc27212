import Mathlib.Data.List.Induction
import Mathlib.Tactic.IntervalCases
import Mathlib.Tactic.Lemma
import Sandboxes.Text.Blank
import Sandboxes.Text.Digits

/-!
# Digits

Hexadecimal numerals of a fixed width are exactly the sequences of that many lower-case digits. Decimal
digits without a zero in front are how their number is written.
-/

namespace Sandboxes.Text

/-! ### Base sixteen -/

/-- The character is a hexadecimal digit in lower case. -/
def IsHexDigit (c : Char) : Prop :=
  ('0' ≤ c ∧ c ≤ '9') ∨ ('a' ≤ c ∧ c ≤ 'f')

instance (c : Char) : Decidable (IsHexDigit c) :=
  inferInstanceAs (Decidable (_ ∨ _))

variable {c : Char} {cs : List Char} {width n : Nat}

lemma isHexDigit_hexDigit (h : n < 16) : IsHexDigit (hexDigit n) := by
  interval_cases n <;> decide

/-- Every digit has a value. -/
lemma exists_hexDigit (h : IsHexDigit c) : ∃ n < 16, hexDigit n = c := by
  rcases h with ⟨low, high⟩ | ⟨low, high⟩
  · have low : 48 ≤ c.toNat := low
    have high : c.toNat ≤ 57 := high
    have back : Char.ofNat (48 + (c.toNat - 48)) = c := by
      rw [Nat.add_sub_cancel' low, Char.ofNat_toNat]
    exact ⟨c.toNat - 48, by omega, by rw [hexDigit, if_pos (by omega)]; exact back⟩
  · have low : 97 ≤ c.toNat := low
    have high : c.toNat ≤ 102 := high
    have back : Char.ofNat (97 + (c.toNat - 87 - 10)) = c := by
      rw [show 97 + (c.toNat - 87 - 10) = c.toNat by omega, Char.ofNat_toNat]
    exact ⟨c.toNat - 87, by omega, by rw [hexDigit, if_neg (by omega)]; exact back⟩

@[simp] lemma length_hexPadded : (hexPadded width n).length = width := by
  induction width generalizing n with
  | zero => rfl
  | succ width ih => simp [hexPadded, ih]

lemma isHexDigit_of_mem_hexPadded (h : c ∈ hexPadded width n) : IsHexDigit c := by
  induction width generalizing n with
  | zero => cases h
  | succ width ih =>
    rw [hexPadded, List.mem_append, List.mem_singleton] at h
    rcases h with h | rfl
    · exact ih h
    · exact isHexDigit_hexDigit (Nat.mod_lt n (by decide))

/-- Digits are the numeral of some number that has no more of them. -/
lemma exists_hexPadded (h : ∀ c ∈ cs, IsHexDigit c) :
    ∃ n < 16 ^ cs.length, hexPadded cs.length n = cs := by
  -- numerals grow at their end
  induction cs using List.reverseRecOn with
  | nil => exact ⟨0, by decide, rfl⟩
  | append_singleton cs c ih =>
    obtain ⟨n, hn, rest⟩ := ih fun d hd => h d (List.mem_append_left _ hd)
    obtain ⟨digit, hdigit, last⟩ := exists_hexDigit (h c (by simp))
    have quotient : (16 * n + digit) / 16 = n := by omega
    have remainder : (16 * n + digit) % 16 = digit := by omega
    refine ⟨16 * n + digit, ?_, ?_⟩
    · rw [List.length_append, List.length_singleton, Nat.pow_succ]
      omega
    · rw [List.length_append, List.length_singleton, hexPadded, quotient, remainder, rest, last]

/-! ### Base ten -/

/-- The number that digits stand for. -/
def decimalValue (cs : List Char) : Nat :=
  cs.foldl (fun n c => n * 10 + digitValue c) 0

lemma between_of_isDigit (h : isDigit c = true) : 48 ≤ c.toNat ∧ c.toNat ≤ 57 := by
  simp only [isDigit, Bool.and_eq_true, decide_eq_true_eq] at h
  exact h

lemma digitValue_eq (c : Char) : digitValue c = c.toNat - 48 := rfl

lemma digitValue_lt (h : isDigit c = true) : digitValue c < 10 := by
  have := between_of_isDigit h
  rw [digitValue_eq]
  omega

lemma digitChar_digitValue (h : isDigit c = true) : (digitValue c).digitChar = c := by
  refine Char.toNat_inj.mp ?_
  have := between_of_isDigit h
  rw [Nat.toNat_digitChar_of_lt_ten (digitValue_lt h), digitValue_eq]
  omega

lemma le_foldl_digitValue : n ≤ cs.foldl (fun n c => n * 10 + digitValue c) n := by
  induction cs generalizing n with
  | nil => exact Nat.le_refl n
  | cons c cs ih =>
    have step : n ≤ n * 10 + digitValue c := by omega
    exact step.trans ih

lemma decimalValue_pos (h : isDigit c = true) (lead : c ≠ '0') : 0 < decimalValue (c :: cs) := by
  have digit := between_of_isDigit h
  have ne : c.toNat ≠ 48 := fun eq => lead (Char.toNat_inj.mp eq)
  have pos : 0 < 0 * 10 + digitValue c := by
    rw [digitValue_eq]
    omega
  exact pos.trans_le le_foldl_digitValue

/-- Digits without a zero in front are how their number is written. -/
lemma toDigits_decimalValue (h : ∀ d ∈ c :: cs, isDigit d = true) (lead : c ≠ '0') :
    Nat.toDigits 10 (decimalValue (c :: cs)) = c :: cs := by
  induction cs using List.reverseRecOn with
  | nil =>
    have digit := h c (List.mem_singleton.mpr rfl)
    have value : decimalValue [c] = digitValue c := by simp [decimalValue]
    rw [value, Nat.toDigits_of_lt_base (digitValue_lt digit), digitChar_digitValue digit]
  | append_singleton cs d ih =>
    rw [← List.cons_append, List.forall_mem_append] at h
    have digit := h.2 d (List.mem_singleton.mpr rfl)
    have value : decimalValue (c :: (cs ++ [d])) = 10 * decimalValue (c :: cs) + digitValue d := by
      simp [decimalValue, Nat.mul_comm]
    have pos : 0 < decimalValue (c :: cs) := decimalValue_pos (h.1 c (by simp)) lead
    rw [value, ← Nat.toDigits_append_toDigits (by decide) pos (digitValue_lt digit), ih h.1,
      Nat.toDigits_of_lt_base (digitValue_lt digit), digitChar_digitValue digit, List.cons_append]

/-! ### Numerals with a bound -/

/-- The characters of a text without a plus sign in front. -/
def withoutPlus (s : String) : List Char :=
  match s.toList with
  | '+' :: cs => cs
  | cs => cs

/-- Digits, with or without a plus sign in front, that stand for a number below the bound. -/
def IsNumeral (bound : Nat) (s : String) : Prop :=
  withoutPlus s ≠ [] ∧ (∀ c ∈ withoutPlus s, isDigit c = true) ∧
    decimalValue (withoutPlus s) < bound

instance (bound : Nat) (s : String) : Decidable (IsNumeral bound s) :=
  -- Without this, all characters there are may be tried.
  have : Decidable (∀ c ∈ withoutPlus s, isDigit c = true) := List.decidableBAll ..
  inferInstanceAs (Decidable (_ ∧ _ ∧ _))

variable {bound value : Nat} {s : String}

lemma readDigits_eq_ok (h : value < bound) :
    readDigits bound cs value = .ok n ↔ (∀ c ∈ cs, isDigit c = true) ∧
      cs.foldl (fun n c => n * 10 + digitValue c) value < bound ∧
      n = cs.foldl (fun n c => n * 10 + digitValue c) value := by
  induction cs generalizing value with
  | nil => simp only [readDigits, Except.ok.injEq, List.foldl_nil, h, eq_comm, List.not_mem_nil,
      false_implies, implies_true, true_and]
  | cons c cs ih =>
    by_cases digit : isDigit c = true
    · by_cases large : bound ≤ value * 10 + digitValue c
      · -- Further digits only make the number larger.
        have beyond : bound ≤ cs.foldl (fun n c => n * 10 + digitValue c)
            (value * 10 + digitValue c) := large.trans le_foldl_digitValue
        have refused : readDigits bound (c :: cs) value = .error .tooLarge := by
          simp [readDigits, digit, large]
        rw [refused, List.foldl_cons]
        constructor
        · nofun
        · rintro ⟨-, below, -⟩
          omega
      · rw [List.forall_mem_cons, List.foldl_cons]
        simp only [readDigits, digit, large]
        simpa using ih (Nat.lt_of_not_le large)
    · simp [readDigits, digit]

lemma readNat_of_ne_nil (h : withoutPlus s ≠ []) :
    readNat bound s = readDigits bound (withoutPlus s) 0 := by
  unfold withoutPlus readNat at *
  generalize s.toList = cs at *
  split
  · simp at h
  · simp at h
  · rfl
  · split
    · simp_all
    · rfl

lemma readNat_ne_ok (h : withoutPlus s = []) : readNat bound s ≠ .ok n := by
  unfold withoutPlus readNat at *
  generalize s.toList = cs at *
  split
  · simp
  · simp
  · simp_all
  · split at h <;> simp_all

/-- What is read as a number is a numeral of it. -/
lemma readNat_eq_ok (pos : 0 < bound) :
    readNat bound s = .ok n ↔ IsNumeral bound s ∧ n = decimalValue (withoutPlus s) := by
  by_cases h : withoutPlus s = []
  · simp [readNat_ne_ok h, IsNumeral, h]
  · rw [readNat_of_ne_nil h, readDigits_eq_ok pos]
    simp only [IsNumeral, decimalValue, ne_eq, h, not_false_eq_true, true_and, and_assoc]

/-- What ends with a number has nothing but a digit at its end. -/
lemma dropTrailing_append_toString (hc : c.isDigit = false) (s : String) (n : Nat) :
    dropTrailing c (s ++ toString n) = s ++ toString n := by
  have written : (toString n).toList = Nat.toDigits 10 n := String.toList_ofList
  obtain ⟨d, ds, last⟩ : ∃ d ds, (Nat.toDigits 10 n).reverse = d :: ds :=
    List.exists_cons_of_ne_nil (by simp [Nat.toDigits_ne_nil])
  have mem : d ∈ Nat.toDigits 10 n := List.mem_reverse.mp (last ▸ List.mem_cons_self ..)
  have ne : d ≠ c := by
    rintro rfl
    rw [Nat.isDigit_of_mem_toDigits (by decide) (by decide) mem] at hc
    cases hc
  have kept : (s ++ toString n).toList.reverse.dropWhile (· == c) = (s ++ toString n).toList.reverse := by
    rw [String.toList_append, written, List.reverse_append, last]
    simp [ne]
  rw [dropTrailing, kept, List.reverse_reverse, String.ofList_toList]

end Sandboxes.Text
