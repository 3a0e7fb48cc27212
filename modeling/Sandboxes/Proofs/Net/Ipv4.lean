import Sandboxes.Net.Ipv4
import Sandboxes.Proofs.Text.Digits
import Sandboxes.Proofs.Text.Pieces

/-!
# Dotted addresses

A text that reads as an address is how that address is written, so that reading one and writing it
again changes nothing.
-/

namespace Sandboxes.Ipv4

lemma toList_toString_of_byte? {cs : List Char} {b : UInt8} (h : byte? cs = some b) :
    (toString b).toList = cs := by
  have written : (toString b).toList = Nat.toDigits 10 b.toNat := String.toList_ofList
  rw [written]
  unfold byte? at h
  split at h
  case h_1 => cases h
  case h_2 =>
    cases h
    rfl
  case h_3 => cases h
  case h_4 nonempty zero lead =>
    obtain ⟨c, cs, rfl⟩ : ∃ d ds, cs = d :: ds := List.exists_cons_of_ne_nil nonempty
    split at h
    case isFalse => cases h
    case isTrue digits =>
      simp only [Bool.and_eq_true, List.all_eq_true] at digits
      have ne : c ≠ '0' := fun eq => lead cs (by rw [eq])
      dsimp only at h
      split at h
      case isFalse => cases h
      case isTrue small =>
        cases h
        rw [UInt8.toNat_ofNat_of_lt' small]
        exact Text.toDigits_decimalValue digits.2 ne

/-- Reading an address and writing it again gives the same text. -/
lemma text_of_ofText? {s : String} {ip : Ipv4} (h : ofText? s = some ip) : ip.text = s := by
  unfold ofText? at h
  split at h
  case h_2 => cases h
  case h_1 a b c d whole =>
    simp only [Option.bind_eq_bind, Option.bind_eq_some_iff] at h
    obtain ⟨ipa, ha, ipb, hb, ipc, hc, ipd, hd, h⟩ := h
    cases h
    refine String.toList_inj.mp ?_
    rw [Text.eq_of_fields whole, ← toList_toString_of_byte? ha, ← toList_toString_of_byte? hb,
      ← toList_toString_of_byte? hc, ← toList_toString_of_byte? hd]
    simp [text, Text.joined]

end Sandboxes.Ipv4
