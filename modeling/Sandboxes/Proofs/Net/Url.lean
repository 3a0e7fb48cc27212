import Sandboxes.Net.Url
import Sandboxes.Proofs.Net.Percent
import Sandboxes.Proofs.Text.Pieces

/-!
# Paths that stand as they are written

Reading a URL may cut it, drop characters, resolve dot segments and escape or resolve bytes. None of
this happens to a path whose segments consist of unreserved characters and are no dots. Most other
characters are escaped, so that resolving the bytes brings them back.
-/

namespace Sandboxes.Net.Url

/-! ### Parts of a URL -/

/-- Nothing is dropped from a URL without tabs and line breaks that begins and ends visibly. -/
lemma cleaned_of_ends {s : String} {front middle back : List Char}
    (whole : s.toList = front ++ middle ++ back) (hfront : front ≠ []) (hback : back ≠ [])
    (first : ∀ c ∈ front, 0x20 < c.toNat) (last : ∀ c ∈ back, 0x20 < c.toNat)
    (kept : ∀ c ∈ s.toList, c ≠ '\t' ∧ c ≠ '\n' ∧ c ≠ '\r') : cleaned s = s.toList := by
  have trimmed : Text.trimBy (·.toNat ≤ 0x20) s.toList = s.toList := by
    rw [whole]
    exact Text.trimBy_of_ends hfront hback (fun c hc => by simpa using first c hc)
      fun c hc => by simpa using last c hc
  rw [cleaned, trimmed]
  exact List.filter_eq_self.mpr fun c hc => by simpa [and_assoc] using kept c hc

lemma spanUntil_of_forall {p : Char → Bool} {cs : List Char} (h : ∀ c ∈ cs, p c = false) :
    spanUntil p cs = (cs, []) := by
  have free : ∀ c ∈ cs, (!p c) = true := fun c hc => by simp [h c hc]
  have before : (cs ++ []).takeWhile (!p ·) = cs ++ [] := List.takeWhile_append_of_pos free
  have after : (cs ++ []).dropWhile (!p ·) = [] := List.dropWhile_append_of_pos free
  rw [List.append_nil] at before after
  rw [spanUntil, before, after]

lemma resolve_of_forall {done segments : List (List Char)}
    (h : ∀ s ∈ segments, dots? s ≠ some 1 ∧ dots? s ≠ some 2) :
    resolve done segments = done.reverse ++ segments := by
  induction segments generalizing done with
  | nil => simp [resolve]
  | cons s rest ih =>
    obtain ⟨stay, up⟩ := h s (by simp)
    rw [resolve]
    simp only [stay, up, if_false, or_self]
    rw [ih fun s hs => h s (by simp [hs])]
    simp

/-- Dots are spelled without hyphens. -/
lemma dots?_of_hyphen_mem {cs : List Char} (h : '-' ∈ cs) : dots? cs = none := by
  fun_induction dots? cs with
  | case1 => contradiction
  | case2 cs ih => simp [ih (by simpa using h)]
  | case3 c cs letter ih =>
    have : c ≠ '-' := by
      rintro rfl
      simp at letter
    simp [ih (by simpa [Ne.symm this] using h)]
  | case4 => rfl
  | case5 => rfl

/-! ### Plain segments -/

/-- Characters that stand for themselves in every part of a URL. -/
def isUnreserved (c : Char) : Bool :=
  c.isAlphanum || c = '-' || c = '.' || c = '_' || c = '~'

lemma lt_of_isUnreserved {c : Char} (h : isUnreserved c = true) : c.toNat < 0x80 := by
  delta isUnreserved Char.isAlphanum Char.isAlpha Char.isUpper Char.isLower Char.isDigit at h
  simp only [Bool.or_eq_true, Bool.and_eq_true, decide_eq_true_eq] at h
  simp only [Char.toNat, UInt32.le_iff_toNat_le, ge_iff_le] at h ⊢
  rcases h with (((h | rfl) | rfl) | rfl) | rfl
  · have upper : 'Z'.val.toNat = 90 := rfl
    have lower : 'z'.val.toNat = 122 := rfl
    have digit : '9'.val.toNat = 57 := rfl
    omega
  all_goals decide

lemma plain_of_isUnreserved {c : Char} (h : isUnreserved c = true) :
    (0x20 < c.toNat ∧ c.toNat < 0x7F) ∧ (c ≠ '/' ∧ c ≠ '?' ∧ c ≠ '#' ∧ c ≠ '%') ∧
      escapedInPath c = false := by
  have all : ∀ n < 0x80, isUnreserved (Char.ofNat n) = true →
      (0x20 < n ∧ n < 0x7F) ∧ (Char.ofNat n ≠ '/' ∧ Char.ofNat n ≠ '?' ∧ Char.ofNat n ≠ '#' ∧
        Char.ofNat n ≠ '%') ∧ escapedInPath (Char.ofNat n) = false := by decide +kernel
  have code := all c.toNat (lt_of_isUnreserved h)
  simp only [Char.ofNat_toNat] at code
  exact code h

lemma isUnreserved_of_mem_hexPadded {width n : Nat} {c : Char}
    (h : c ∈ Text.hexPadded width n) : isUnreserved c = true := by
  have digits : ∀ k < 16, isUnreserved (Text.hexDigit k) = true := by decide
  induction width generalizing n with
  | zero => cases h
  | succ width ih =>
    rw [Text.hexPadded] at h
    rcases List.mem_append.mp h with h | h
    · exact ih h
    · cases List.mem_singleton.mp h
      exact digits _ (Nat.mod_lt _ (by decide))

/-- A segment of unreserved characters that is neither one dot nor two. -/
def IsPlain (segment : List Char) : Prop :=
  (∀ c ∈ segment, isUnreserved c = true) ∧ dots? segment ≠ some 1 ∧ dots? segment ≠ some 2

instance (segment : List Char) : Decidable (IsPlain segment) :=
  decidable_of_iff (segment.all isUnreserved = true ∧ dots? segment ≠ some 1 ∧
    dots? segment ≠ some 2) (by rw [List.all_eq_true, IsPlain])

/-- The characters of a path of plain segments. -/
lemma readable_of_plain {segments : List (List Char)} (h : ∀ s ∈ segments, IsPlain s) :
    ∀ c ∈ segments.flatMap ('/' :: ·),
      (0x20 < c.toNat ∧ c.toNat < 0x80) ∧ c ≠ '?' ∧ c ≠ '#' ∧ c ≠ '%' := by
  intro c hc
  obtain ⟨s, hs, hc⟩ := List.mem_flatMap.mp hc
  rcases List.mem_cons.mp hc with rfl | hc
  · decide
  · obtain ⟨⟨low, high⟩, ⟨-, query, fragment, percent⟩, -⟩ := plain_of_isUnreserved ((h s hs).1 c hc)
    exact ⟨⟨low, by omega⟩, query, fragment, percent⟩

lemma map_percentEncode_of_plain {segments : List (List Char)} (h : ∀ s ∈ segments, IsPlain s) :
    segments.map (percentEncode escapedInPath) = segments := by
  refine (List.map_congr_left fun s hs => ?_).trans (List.map_id _)
  refine percentEncode_of_forall fun c hc => ?_
  obtain ⟨⟨-, ascii⟩, -, plain⟩ := plain_of_isUnreserved ((h s hs).1 c hc)
  exact ⟨plain, ascii⟩

/-! ### Verbatim characters -/

/-- Characters that come back from a path: they neither end it nor a segment of it, they do not begin
percent bytes, and they are not dropped. -/
def isVerbatim (c : Char) : Bool :=
  c ≠ '/' && c ≠ '?' && c ≠ '#' && c ≠ '%' && c ≠ '\t' && c ≠ '\n' && c ≠ '\r'

lemma isVerbatim_iff {c : Char} : isVerbatim c = true ↔
    (c ≠ '/' ∧ c ≠ '?' ∧ c ≠ '#' ∧ c ≠ '%') ∧ c ≠ '\t' ∧ c ≠ '\n' ∧ c ≠ '\r' := by
  simp [isVerbatim, and_assoc]

lemma isVerbatim_of_isUnreserved {c : Char} (h : isUnreserved c = true) : isVerbatim c = true := by
  obtain ⟨⟨low, -⟩, marks, -⟩ := plain_of_isUnreserved h
  refine isVerbatim_iff.mpr ⟨marks, ?_, ?_, ?_⟩ <;>
  · rintro rfl
    contradiction

/-- The characters of a path of verbatim characters. -/
lemma readable_of_verbatim {segments : List (List Char)}
    (h : ∀ s ∈ segments, ∀ c ∈ s, isVerbatim c = true) :
    ∀ c ∈ segments.flatMap ('/' :: ·),
      (c ≠ '?' ∧ c ≠ '#' ∧ c ≠ '%') ∧ c ≠ '\t' ∧ c ≠ '\n' ∧ c ≠ '\r' := by
  intro c hc
  obtain ⟨s, hs, hc⟩ := List.mem_flatMap.mp hc
  rcases List.mem_cons.mp hc with rfl | hc
  · decide
  · obtain ⟨⟨-, marks⟩, breaks⟩ := isVerbatim_iff.mp (h s hs c hc)
    exact ⟨marks, breaks⟩

/-- Escaping keeps a path in segments. -/
lemma flatMap_percentEncode (segments : List (List Char)) :
    (segments.map (percentEncode escapedInPath)).flatMap ('/' :: ·) =
      percentEncode escapedInPath (segments.flatMap ('/' :: ·)) := by
  induction segments with
  | nil => rfl
  | cons s segments ih =>
    rw [List.map_cons, List.flatMap_cons, List.flatMap_cons, ih, List.cons_append, List.cons_append,
      percentEncode_cons, percentEncode_append]
    rfl

/-- A path without dot segments is only escaped. -/
lemma normalPath_of_forall {s : List Char} {segments : List (List Char)}
    (free : ∀ t ∈ s :: segments, '/' ∉ t)
    (dots : ∀ t ∈ s :: segments, dots? (percentEncode escapedInPath t) = none) :
    normalPath (· = '/') (s ++ segments.flatMap ('/' :: ·)) =
      .ofList (percentEncode escapedInPath ((s :: segments).flatMap ('/' :: ·))) := by
  have unified : ∀ cs : List Char, (cs.map fun c => if decide (c = '/') then '/' else c) = cs := by
    intro cs
    refine (List.map_congr_left fun c _ => ?_).trans (List.map_id cs)
    split <;> simp_all
  have plain : ∀ t ∈ (s :: segments).map (percentEncode escapedInPath),
      dots? t ≠ some 1 ∧ dots? t ≠ some 2 := by
    intro t ht
    obtain ⟨u, hu, rfl⟩ := List.mem_map.mp ht
    simp [dots u hu]
  rw [normalPath, unified, Text.fields_append_flatMap free, resolve_of_forall plain,
    List.reverse_nil, List.nil_append, flatMap_percentEncode]

end Sandboxes.Net.Url
