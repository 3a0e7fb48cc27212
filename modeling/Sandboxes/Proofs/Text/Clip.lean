import Mathlib.Data.Nat.Find
import Sandboxes.Proofs.Text.Utf8

/-!
# Cutting texts

A text that is cut keeps its longest prefix of whole characters that has the bytes allowed. Looking
for the end of that prefix backwards takes three steps at most, as no character has more than four
bytes.
-/

namespace Sandboxes.Text

variable {cs front back p q : List Char} {k n limit : Nat} {s t : String}

/-! ### Bytes of a prefix -/

@[simp] lemma byteLength_append : byteLength (front ++ back) = byteLength front + byteLength back := by
  induction front with
  | nil => exact (Nat.zero_add _).symm
  | cons c front ih => rw [List.cons_append, byteLength, byteLength, ih, Nat.add_assoc]

lemma byteLength_toList (s : String) : byteLength s.toList = s.utf8ByteSize := by
  have spread (cs : List Char) : byteLength cs = (String.ofList cs).utf8ByteSize := by
    induction cs with
    | nil => rfl
    | cons c cs ih =>
      rw [byteLength, ih, String.ofList_cons, String.utf8ByteSize_append,
        String.utf8ByteSize_singleton]
  rw [spread, String.ofList_toList]

lemma length_encode : (encode s).length = s.utf8ByteSize := by
  rw [← String.ofList_toList (s := s), encode_ofList, ← byteLength_toList, String.toList_ofList]
  induction s.toList with
  | nil => rfl
  | cons c cs ih => rw [List.flatMap_cons, List.length_append, String.length_utf8EncodeChar, ih,
      byteLength]

/-- The bytes of a prefix are the first bytes. -/
lemma encode_of_prefix (h : t.toList <+: s.toList) : encode t = (encode s).take t.utf8ByteSize := by
  obtain ⟨rest, whole⟩ := h
  have bytes : encode s = encode t ++ rest.flatMap String.utf8EncodeChar := by
    rw [← String.ofList_toList (s := s), ← whole, encode_ofList, List.flatMap_append, ← encode_ofList,
      String.ofList_toList]
  rw [bytes, ← length_encode, List.take_left]

lemma eq_nil_of_byteLength_eq_zero (h : byteLength cs = 0) : cs = [] := by
  cases cs with
  | nil => rfl
  | cons c cs =>
    have := c.utf8Size_pos
    rw [byteLength] at h
    omega

/-- Of two prefixes the one with fewer bytes is a prefix of the other. -/
lemma prefix_of_byteLength_le (hp : p <+: cs) (hq : q <+: cs) (h : byteLength p ≤ byteLength q) :
    p <+: q := by
  rcases List.prefix_or_prefix_of_prefix hp hq with shorter | ⟨rest, rfl⟩
  · exact shorter
  · rw [byteLength_append] at h
    have : rest = [] := eq_nil_of_byteLength_eq_zero (by omega)
    simp [this]

/-! ### Boundaries -/

/-- A boundary is where whole characters end. -/
lemma isBoundary_iff : isBoundary cs n = true ↔ ∃ p, p <+: cs ∧ byteLength p = n := by
  induction cs generalizing n with
  | nil =>
    cases n with
    | zero => exact iff_of_true rfl ⟨[], List.prefix_refl _, rfl⟩
    | succ n => simp [isBoundary, byteLength]
  | cons c cs ih =>
    have pos := c.utf8Size_pos
    cases n with
    | zero => exact iff_of_true rfl ⟨[], List.nil_prefix, rfl⟩
    | succ n =>
      have step : isBoundary (c :: cs) (n + 1) =
          (decide (c.utf8Size ≤ n + 1) && isBoundary cs (n + 1 - c.utf8Size)) := rfl
      rw [step, Bool.and_eq_true, decide_eq_true_iff, ih]
      constructor
      · rintro ⟨fits, p, hp, length⟩
        refine ⟨c :: p, List.cons_prefix_cons.mpr ⟨rfl, hp⟩, ?_⟩
        rw [byteLength, length]
        omega
      · rintro ⟨p, hp, length⟩
        cases p with
        | nil => cases length
        | cons d p =>
          obtain ⟨rfl, rest⟩ := List.cons_prefix_cons.mp hp
          rw [byteLength] at length
          exact ⟨by omega, p, rest, by omega⟩

/-- Boundaries are the positions that are valid in a text: its end, and wherever a byte begins a
character. -/
lemma isBoundary_toList : isBoundary s.toList n = true ↔ String.Pos.Raw.IsValid s ⟨n⟩ := by
  rw [isBoundary_iff, String.Pos.Raw.isValid_iff_exists_append]
  constructor
  · rintro ⟨p, ⟨rest, whole⟩, length⟩
    refine ⟨.ofList p, .ofList rest, ?_, ?_⟩
    · rw [← String.ofList_append, whole, String.ofList_toList]
    · rw [String.Pos.Raw.ext_iff, String.byteIdx_rawEndPos, ← byteLength_toList,
        String.toList_ofList, length]
  · rintro ⟨front, back, rfl, h⟩
    refine ⟨front.toList, String.toList_append ▸ List.prefix_append .., ?_⟩
    rw [byteLength_toList, ← String.byteIdx_rawEndPos, ← h]

/-- Some boundary is among any four positions in a row within a text. -/
lemma exists_isBoundary (h : n ≤ byteLength cs) :
    ∃ k, isBoundary cs k = true ∧ k ≤ n ∧ n ≤ k + 3 := by
  induction cs generalizing n with
  | nil => exact ⟨0, rfl, Nat.zero_le n, Nat.le_trans h (Nat.zero_le 3)⟩
  | cons c cs ih =>
    rw [byteLength] at h
    by_cases inside : n < c.utf8Size
    · have := c.utf8Size_le_four
      exact ⟨0, by rw [isBoundary], Nat.zero_le n, by omega⟩
    · obtain ⟨k, boundary, low, high⟩ := ih (n := n - c.utf8Size) (by omega)
      obtain ⟨p, hp, length⟩ := isBoundary_iff.mp boundary
      refine ⟨c.utf8Size + k, ?_, by omega, by omega⟩
      exact isBoundary_iff.mpr ⟨c :: p, List.cons_prefix_cons.mpr ⟨rfl, hp⟩, by rw [byteLength, length]⟩

/-! ### The search -/

lemma boundaryAtMost_eq : boundaryAtMost cs n = Nat.findGreatest (isBoundary cs · = true) n := by
  induction n with
  | zero => rfl
  | succ n ih => rw [boundaryAtMost, Nat.findGreatest_succ, ih]

lemma isBoundary_boundaryAtMost : isBoundary cs (boundaryAtMost cs n) = true := by
  rw [boundaryAtMost_eq]
  exact Nat.findGreatest_spec (P := (isBoundary cs · = true)) (Nat.zero_le n) (by rw [isBoundary])

lemma le_boundaryAtMost (h : isBoundary cs k = true) (le : k ≤ n) :
    k ≤ boundaryAtMost cs n := by
  rw [boundaryAtMost_eq]
  exact Nat.le_findGreatest le h

lemma boundaryAtMost_le : boundaryAtMost cs n ≤ n := by
  rw [boundaryAtMost_eq]
  exact Nat.findGreatest_le n

/-- Where the search has passed there is no boundary. -/
lemma not_isBoundary_of_lt (passed : boundaryAtMost cs n < k) (le : k ≤ n) :
    ¬ isBoundary cs k = true := fun h =>
  Nat.not_le_of_lt passed (le_boundaryAtMost h le)

/-- The search passes over three positions at most. -/
lemma le_boundaryAtMost_add_three (h : n ≤ byteLength cs) : n ≤ boundaryAtMost cs n + 3 := by
  obtain ⟨k, boundary, low, high⟩ := exists_isBoundary h
  have := le_boundaryAtMost boundary low
  omega

/-! ### What is kept -/

lemma takeBytes_append : takeBytes (byteLength front) (front ++ back) = front := by
  induction front with
  | nil =>
    cases back with
    | nil => rfl
    | cons c back =>
      have := c.utf8Size_pos
      exact if_neg (by simp only [byteLength]; omega)
  | cons c front ih =>
    rw [byteLength, List.cons_append, takeBytes, if_pos (Nat.le_add_right ..), Nat.add_sub_cancel_left,
      ih]

lemma clip_of_le (h : s.utf8ByteSize ≤ limit) : clip limit s = s := by
  rw [← byteLength_toList] at h
  exact if_pos h

/-- A text that is too long is cut at the last boundary. -/
lemma clip_of_lt (h : limit < s.utf8ByteSize) :
    (clip limit s).toList <+: s.toList ∧
      (clip limit s).utf8ByteSize = boundaryAtMost s.toList limit := by
  have last : isBoundary s.toList (boundaryAtMost s.toList limit) = true := isBoundary_boundaryAtMost
  obtain ⟨p, ⟨rest, whole⟩, length⟩ := isBoundary_iff.mp last
  have cut : clip limit s = .ofList p := by
    rw [← byteLength_toList] at h
    refine (if_neg (Nat.not_le_of_lt h)).trans (congrArg String.ofList ?_)
    rw [← length, ← whole, takeBytes_append]
  rw [cut, String.toList_ofList, ← byteLength_toList, String.toList_ofList, ← whole]
  exact ⟨List.prefix_append .., whole ▸ length⟩

lemma clip_prefix : (clip limit s).toList <+: s.toList := by
  rcases Nat.lt_or_ge limit s.utf8ByteSize with long | short
  · exact (clip_of_lt long).1
  · simp only [clip_of_le short, List.prefix_refl]

lemma utf8ByteSize_clip_le : (clip limit s).utf8ByteSize ≤ limit := by
  rcases Nat.lt_or_ge limit s.utf8ByteSize with long | short
  · exact (clip_of_lt long).2 ▸ boundaryAtMost_le
  · rwa [clip_of_le short]

/-- Whatever whole characters fit are kept. -/
lemma prefix_clip (h : t.toList <+: s.toList) (fits : t.utf8ByteSize ≤ limit) :
    t.toList <+: (clip limit s).toList := by
  rcases Nat.lt_or_ge limit s.utf8ByteSize with long | short
  · obtain ⟨kept, size⟩ := clip_of_lt long
    refine prefix_of_byteLength_le h kept ?_
    rw [byteLength_toList, byteLength_toList, size]
    exact le_boundaryAtMost (isBoundary_iff.mpr ⟨_, h, byteLength_toList t⟩) fits
  · rwa [clip_of_le short]

end Sandboxes.Text
