import Sandboxes.Control.Call
import Sandboxes.Proofs.Text.Clip

/-!
# Refusals

An answer that says no success is a fault, which keeps as much of the body as fits in 512 bytes.
-/

namespace Sandboxes.Control

open Text

/-- Of a refusing answer whose body is the text `b`, which may be any text, the longest prefix of whole
characters that has 512 bytes at most is kept. Where something is left out, the last boundary is looked
for backwards from the limit: three steps at most lead to it, so that 509 bytes at least are kept, and
the bytes up to there are those of what is kept. -/
theorem kept_of_refusal (b : String) :
    ∃ kept : String,
      (∀ status body, Net.isSuccess status = false → decodeLenient (body.getD []) = b →
        successful (status, body) = .error (.status status kept)) ∧
      kept.toList <+: b.toList ∧ kept.utf8ByteSize ≤ 512 ∧
      (∀ t : String, t.toList <+: b.toList → t.utf8ByteSize ≤ 512 → t.toList <+: kept.toList) ∧
      (b.utf8ByteSize ≤ 512 → kept = b) ∧
      (512 < b.utf8ByteSize → 509 ≤ kept.utf8ByteSize ∧ ∃ steps ≤ 3,
        boundaryAtMost b.toList 512 = 512 - steps ∧ String.Pos.Raw.IsValid b ⟨512 - steps⟩ ∧
        (∀ step < steps, ¬ String.Pos.Raw.IsValid b ⟨512 - step⟩) ∧
        encode kept = (encode b).take (512 - steps)) := by
  refine ⟨clip 512 b, ?_, clip_prefix, utf8ByteSize_clip_le, fun t => prefix_clip, clip_of_le, ?_⟩
  · rintro status body refused rfl
    exact if_neg (Bool.eq_false_iff.mp refused)
  · intro long
    obtain ⟨kept, size⟩ := clip_of_lt long
    have within : 512 ≤ byteLength b.toList := by
      rw [byteLength_toList]
      exact Nat.le_of_lt long
    have near := le_boundaryAtMost_add_three within
    have below : boundaryAtMost b.toList 512 ≤ 512 := boundaryAtMost_le
    have found : 512 - (512 - boundaryAtMost b.toList 512) = boundaryAtMost b.toList 512 :=
      Nat.sub_sub_self below
    refine ⟨by omega, 512 - boundaryAtMost b.toList 512, by omega, found.symm, ?_, ?_, ?_⟩
    · rw [found]
      exact isBoundary_toList.mp isBoundary_boundaryAtMost
    · intro step passed
      rw [← isBoundary_toList]
      exact not_isBoundary_of_lt (by omega) (Nat.sub_le ..)
    · rw [found, ← size]
      exact encode_of_prefix kept

/-- Of 171 characters of three bytes the last one lies across the limit, and goes. -/
theorem kept_of_refusal_euros :
    let euros (n : Nat) := String.ofList (List.replicate n '€')
    successful (500, some (encode (euros 171))) = .error (.status 500 (euros 170)) := by
  intro euros
  have size (n : Nat) : (euros n).utf8ByteSize = 3 * n := by
    rw [← byteLength_toList, String.toList_ofList]
    induction n with
    | zero => rfl
    | succ n ih =>
      have three : '€'.utf8Size = 3 := by decide
      rw [List.replicate_succ, byteLength, ih, three]
      omega
  obtain ⟨kept, answers, whole, fits, longest, -⟩ := kept_of_refusal (euros 171)
  have characters (n : Nat) : (euros n).toList = List.replicate n '€' := String.toList_ofList
  rw [characters] at whole
  have alike : kept = euros kept.toList.length := by
    rw [← String.toList_inj, characters]
    exact (List.prefix_replicate_iff.mp whole).2
  have most : (euros 170).toList <+: kept.toList := by
    refine longest (euros 170) ?_ (by rw [size]; decide)
    rw [characters, characters]
    exact ⟨List.replicate 1 '€', List.replicate_append_replicate⟩
  have least : 170 ≤ kept.toList.length := by
    rw [← List.length_replicate (n := 170) (a := '€'), ← characters]
    exact most.length_le
  have count : kept.toList.length = 170 := by
    rw [alike, size] at fits
    omega
  rw [answers 500 (some (encode (euros 171))) (by decide) (decodeLenient_encode _), alike, count]

end Sandboxes.Control
