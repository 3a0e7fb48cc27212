import Mathlib.Data.String.Basic
import Sandboxes.Proofs.Text.Utf8

/-!
# The order of texts

Texts are ordered by their characters, and their bytes are ordered in the same way: a character with
the smaller number has the smaller bytes, whatever follows.
-/

namespace Sandboxes.Text

variable {m n : Nat} {bs bs' : Bytes} {s t : String}

/-- Bytes are ordered by the first of them that differs. -/
lemma ofNat_cons_lt_ofNat_cons (hm : m < 0x100) (hn : n < 0x100) :
    UInt8.ofNat m :: bs < UInt8.ofNat n :: bs' ↔ m < n ∨ m = n ∧ bs < bs' := by
  rw [List.cons_lt_cons_iff, UInt8.lt_iff_toNat_lt, ← UInt8.toNat_inj, Reading.toNat_ofNat hm,
    Reading.toNat_ofNat hn]

lemma utf8EncodeChar_append_lt {c d : Char} (h : c < d) (rest rest' : Bytes) :
    String.utf8EncodeChar c ++ rest < String.utf8EncodeChar d ++ rest' := by
  have below : c.val.toNat < d.val.toNat := h
  have last : d.val.toNat < 0x110000 := by
    have valid : d.val.toNat < 0xD800 ∨ 0xDFFF < d.val.toNat ∧ d.val.toNat < 0x110000 := d.valid
    omega
  unfold String.utf8EncodeChar
  generalize c.val.toNat = v at below
  generalize d.val.toNat = w at below last
  -- The number is spread over the bytes, six bits to each but the first.
  have parts (n : Nat) (h : n < 0x110000) : n = 64 * (n / 64) + n % 64 ∧
      n / 64 = 64 * (n / 4096) + n / 64 % 64 ∧
      n / 4096 = 64 * (n / 262144 % 8) + n / 4096 % 64 := by omega
  have := parts v (Nat.lt_trans below last)
  have := parts w last
  dsimp only
  split_ifs <;>
  · simp (disch := omega) only [List.cons_append, List.nil_append, ofNat_cons_lt_ofNat_cons]
    omega

lemma encode_lt_encode_of_lt (h : s < t) : encode s < encode t := by
  rw [← String.ofList_toList (s := s), ← String.ofList_toList (s := t), encode_ofList,
    encode_ofList]
  have h := String.lt_iff_toList_lt.mp h
  generalize s.toList = cs at h
  generalize t.toList = ds at h
  induction h with
  | nil =>
    obtain ⟨b, bs, bytes⟩ := List.exists_cons_of_ne_nil String.utf8EncodeChar_ne_nil
    rw [List.flatMap_nil, List.flatMap_cons, bytes]
    exact List.nil_lt_cons ..
  | rel h => exact utf8EncodeChar_append_lt h _ _
  | cons _ ih => exact List.append_left_lt ih

/-- The bytes of texts are ordered as the texts are. -/
theorem encode_lt_encode : encode s < encode t ↔ s < t := by
  refine ⟨fun h => ?_, encode_lt_encode_of_lt⟩
  rcases lt_trichotomy s t with below | rfl | above
  · exact below
  · exact absurd h (List.lt_irrefl _)
  · exact absurd h (List.lt_asymm (encode_lt_encode_of_lt above))

end Sandboxes.Text
