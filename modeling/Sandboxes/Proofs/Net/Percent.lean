import Mathlib.Tactic.Lemma
import Sandboxes.Net.Percent
import Sandboxes.Proofs.Text.Utf8

/-!
# Percent coding

Whatever characters are escaped, a text without percent signs of its own is read back from its percent
coding. What is known of a single byte is found by trying all of them.
-/

namespace Sandboxes.Net

variable {b : UInt8} {bs rest : Bytes} {escaped : Char → Bool} {c : Char} {cs : List Char}

/-! ### Bytes -/

/-- The bytes stand for `b`: they are `b` itself or its percent byte. -/
def StandsFor (b : UInt8) : Bytes → Prop
  | [c] => c = b ∧ c ≠ 0x25
  | [sign, high, low] => sign = 0x25 ∧
    (do return UInt8.ofNat ((← Text.hexValue? (.ofNat high.toNat)) * 16 +
      (← Text.hexValue? (.ofNat low.toNat)))) = some b
  | _ => False

instance (b : UInt8) : (bs : Bytes) → Decidable (StandsFor b bs)
  | [] => isFalse id
  | [_] => inferInstanceAs (Decidable (_ ∧ _))
  | [_, _] => isFalse id
  | [_, _, _] => inferInstanceAs (Decidable (_ ∧ _))
  | _ :: _ :: _ :: _ :: _ => isFalse id

lemma percentDecode_append (h : StandsFor b bs) : percentDecode (bs ++ rest) = b :: percentDecode rest := by
  match bs, h with
  | [c], ⟨same, plain⟩ =>
    rw [List.singleton_append, percentDecode, same]
    rintro high low rest rfl
    exact absurd rfl plain
  | [sign, high, low], ⟨percent, digits⟩ =>
    rw [percent, List.cons_append, List.cons_append, List.singleton_append, percentDecode]
    cases hhigh : Text.hexValue? (.ofNat high.toNat) with
    | none => simp [hhigh] at digits
    | some first =>
      cases hlow : Text.hexValue? (.ofNat low.toNat) with
      | none => simp [hhigh, hlow] at digits
      | some second =>
        have value : UInt8.ofNat (first * 16 + second) = b := by simpa [hhigh, hlow] using digits
        dsimp only
        rw [value]

/-- Bytes are read back if each is written as something that stands for it. -/
lemma percentDecode_flatMap {written : UInt8 → Bytes} (h : ∀ b ∈ bs, StandsFor b (written b))
    (rest : Bytes) : percentDecode (bs.flatMap written ++ rest) = bs ++ percentDecode rest := by
  induction bs with
  | nil => rfl
  | cons b bs ih =>
    rw [List.flatMap_cons, List.append_assoc, percentDecode_append (h b List.mem_cons_self),
      ih fun b hb => h b (List.mem_cons_of_mem _ hb), List.cons_append]

lemma standsFor_percentByte (b : UInt8) :
    StandsFor b ((percentByte b).flatMap String.utf8EncodeChar) := by
  have all : ∀ n < 256, StandsFor (.ofNat n) ((percentByte (.ofNat n)).flatMap
      String.utf8EncodeChar) := by decide +kernel
  simpa only [UInt8.ofNat_toNat] using all b.toNat b.toNat_lt

/-! ### Texts -/

lemma percentEncode_cons : percentEncode escaped (c :: cs) =
    (if escaped c || 0x7F ≤ c.toNat then (String.utf8EncodeChar c).flatMap percentByte
      else [c]) ++ percentEncode escaped cs := by
  have bytes : Text.encode (String.singleton c) = String.utf8EncodeChar c := by
    rw [String.singleton_eq_ofList, Text.encode_ofList, List.flatMap_singleton]
  rw [percentEncode, List.flatMap_cons, bytes, percentEncode]

lemma percentEncode_append (cs cs' : List Char) :
    percentEncode escaped (cs ++ cs') = percentEncode escaped cs ++ percentEncode escaped cs' :=
  List.flatMap_append

lemma percentEncode_of_forall (h : ∀ c ∈ cs, escaped c = false ∧ c.toNat < 0x7F) :
    percentEncode escaped cs = cs := by
  induction cs with
  | nil => rfl
  | cons c cs ih =>
    obtain ⟨plain, ascii⟩ := h c (by simp)
    rw [percentEncode_cons, if_neg (by simpa [plain] using ascii),
      ih fun c hc => h c (by simp [hc]), List.singleton_append]

/-- An ASCII character other than the percent sign is a byte that stands for itself. -/
lemma exists_utf8EncodeChar (ascii : c.toNat < 0x80) (ne : c ≠ '%') :
    ∃ b, String.utf8EncodeChar c = [b] ∧ StandsFor b [b] := by
  have small : c.val.toNat ≤ 0x7F := Nat.le_of_lt_succ ascii
  refine ⟨_, by rw [String.utf8EncodeChar, if_pos small], rfl, fun percent => ne ?_⟩
  have code : c.toNat % 0x100 = 0x25 := by simpa using congrArg UInt8.toNat percent
  rw [Nat.mod_eq_of_lt (by omega)] at code
  rw [← Char.ofNat_toNat c, code]

/-- A text without percent signs is read back from its percent coding. -/
theorem percentDecode_percentEncode (h : '%' ∉ cs) :
    percentDecode (Text.encode (.ofList (percentEncode escaped cs))) = Text.encode (.ofList cs) := by
  rw [Text.encode_ofList, Text.encode_ofList]
  induction cs with
  | nil => rfl
  | cons c cs ih =>
    simp only [List.mem_cons, not_or] at h
    rw [percentEncode_cons, List.flatMap_append, List.flatMap_cons]
    split
    case isTrue =>
      rw [List.flatMap_assoc, percentDecode_flatMap fun b _ => standsFor_percentByte b,
        ih h.2]
    case isFalse plain =>
      have ascii : c.toNat < 0x80 := by
        simp only [Bool.or_eq_true, decide_eq_true_eq, not_or] at plain
        omega
      obtain ⟨b, single, stands⟩ := exists_utf8EncodeChar ascii (Ne.symm h.1)
      rw [List.flatMap_singleton, single, percentDecode_append stands, ih h.2, List.singleton_append]

end Sandboxes.Net
