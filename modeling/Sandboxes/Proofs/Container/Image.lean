import Mathlib.Data.List.DropRight
import Sandboxes.Container.Image
import Sandboxes.Proofs.Text.Pieces

/-!
# Image references and their parts

The tag of a reference is what stands behind the last colon of its last segment, so that the port of a
registry is never taken for one. Repository and tag put together give the reference again, unless the
tag is the usual one of a reference that gives none.
-/

namespace Sandboxes.Container

variable {image repository tag : String}

/-! ### Segments -/

/-- What stands behind the last slash of a reference. -/
def lastSegment (reference : String) : List Char :=
  reference.toList.rtakeWhile (· ≠ '/')

/-- What stands in front of the last segment, with the slash. -/
def beforeLast (reference : String) : List Char :=
  reference.toList.rdropWhile (· ≠ '/')

lemma beforeLast_append_lastSegment (image : String) :
    beforeLast image ++ lastSegment image = image.toList :=
  List.rdropWhile_append_rtakeWhile ..

lemma rtakeWhile_append {before after : List Char} (h : '/' ∉ after) :
    (before ++ after).rtakeWhile (· ≠ '/') = before.rtakeWhile (· ≠ '/') ++ after := by
  have kept : ∀ c ∈ after.reverse, decide (c ≠ '/') = true := fun c hc => by
    simpa using fun slash : c = '/' => h (slash ▸ List.mem_reverse.mp hc)
  rw [List.rtakeWhile, List.reverse_append, List.takeWhile_append_of_pos kept, List.reverse_append,
    List.reverse_reverse, List.rtakeWhile]

/-- The last segment goes on with what is appended, if that has no slash. -/
lemma lastSegment_append (h : '/' ∉ tag.toList) :
    lastSegment (repository ++ tag) = lastSegment repository ++ tag.toList := by
  rw [lastSegment, String.toList_append, rtakeWhile_append h, lastSegment]

lemma beforeLast_append (h : '/' ∉ tag.toList) :
    beforeLast (repository ++ tag) = beforeLast repository := by
  have whole := beforeLast_append_lastSegment (repository ++ tag)
  rw [lastSegment_append h, String.toList_append,
    ← beforeLast_append_lastSegment repository, ← List.append_assoc] at whole
  exact List.append_cancel_right (List.append_cancel_right whole)

lemma slash_not_mem_lastSegment (image : String) : '/' ∉ lastSegment image := fun h => by
  simpa using List.mem_rtakeWhile_imp h

/-- Splitting a reference at its last slash leaves its last segment. -/
lemma splitImage_eq (undigested : '@' ∉ image.toList) :
    splitImage image = match Text.splitLast? ':' (lastSegment image) with
      | some (name, tag) => (.ofList (beforeLast image ++ name), .ofList tag)
      | none => (image, latest) := by
  have whole := beforeLast_append_lastSegment image
  unfold splitImage
  rw [if_neg undigested]
  cases h : Text.splitLast? '/' image.toList with
  | none =>
    have last : lastSegment image = image.toList := by
      refine List.rtakeWhile_eq_self_iff.mpr fun c hc => ?_
      simpa using fun slash : c = '/' => Text.splitLast?_eq_none.mp h (slash ▸ hc)
    have nothing : beforeLast image = [] := by simpa [last] using whole
    rewrite [last, nothing]
    rfl
  | some split =>
    obtain ⟨parts, plain⟩ := Text.splitLast?_eq_some.mp h
    have last : lastSegment image = split.2 := by
      have : image.toList = (split.1 ++ ['/']) ++ split.2 := by simp [parts]
      rw [lastSegment, this, rtakeWhile_append plain]
      simp
    have before : beforeLast image = split.1 ++ ['/'] := by
      rw [last, parts] at whole
      exact List.append_cancel_right (whole.trans (List.append_cons ..))
    rewrite [last, before]
    rfl

/-! ### Repositories and tags -/

/-- The name of a repository: no digest, and no colon in its last segment. -/
structure IsRepository (repository : String) : Prop where
  undigested : '@' ∉ repository.toList
  untagged : ':' ∉ lastSegment repository

/-- A tag. -/
structure IsTag (tag : String) : Prop where
  undigested : '@' ∉ tag.toList
  unslashed : '/' ∉ tag.toList
  uncoloned : ':' ∉ tag.toList

lemma splitImage_append (undigested : '@' ∉ repository.toList) (h : IsTag tag) :
    splitImage (repository ++ ":" ++ tag) = (repository, tag) := by
  have behind : '/' ∉ (":" ++ tag).toList := by simpa using h.unslashed
  have whole : '@' ∉ (repository ++ (":" ++ tag)).toList := by
    simpa using ⟨undigested, h.undigested⟩
  have last : lastSegment (repository ++ (":" ++ tag)) =
      lastSegment repository ++ ':' :: tag.toList := by
    rw [lastSegment_append behind, String.toList_append]
    rfl
  rw [String.append_assoc, splitImage_eq whole, last, Text.splitLast?_append_cons h.uncoloned,
    beforeLast_append behind]
  dsimp only
  rw [beforeLast_append_lastSegment, String.ofList_toList, String.ofList_toList]

lemma splitImage_of_untagged (undigested : '@' ∉ image.toList) (h : ':' ∉ lastSegment image) :
    splitImage image = (image, latest) := by
  rw [splitImage_eq undigested, Text.splitLast?_eq_none.mpr h]

/-- A reference with a colon in its last segment is split at the last one. -/
lemma exists_of_colon_mem (undigested : '@' ∉ image.toList) (h : ':' ∈ lastSegment image) :
    ∃ repository tag, splitImage image = (repository, tag) ∧ image = repository ++ ":" ++ tag ∧
      IsTag tag := by
  obtain ⟨⟨name, rest⟩, split⟩ :=
    Option.ne_none_iff_exists'.mp fun none => Text.splitLast?_eq_none.mp none h
  obtain ⟨parts, uncoloned⟩ := Text.splitLast?_eq_some.mp split
  have whole : image.toList = beforeLast image ++ (name ++ ':' :: rest) := by
    rw [← parts, beforeLast_append_lastSegment]
  refine ⟨_, _, by rw [splitImage_eq undigested, split], ?_, ?_, ?_, ?_⟩
  · rw [← String.toList_inj, whole]
    simp
  · rw [whole] at undigested
    simp_all
  · have unslashed := slash_not_mem_lastSegment image
    rw [parts] at unslashed
    simp_all
  · rwa [String.toList_ofList]

/-- A repository with a tag is split into the two, and one without a tag has the usual one. What any
reference is split into puts it together again, with no slash and no colon in the tag, unless the
reference had no tag. A reference with a digest is left whole. -/
theorem splitImage_parts :
    (∀ repository tag, IsRepository repository → IsTag tag →
      splitImage (repository ++ ":" ++ tag) = (repository, tag) ∧
      splitImage repository = (repository, "latest")) ∧
    (∀ image, '@' ∉ image.toList → ∃ repository tag, splitImage image = (repository, tag) ∧
      '/' ∉ tag.toList ∧ ':' ∉ tag.toList ∧
      (image = repository ++ ":" ++ tag ∨
        image = repository ∧ tag = "latest" ∧ ':' ∉ lastSegment image)) ∧
    ∀ image, '@' ∈ image.toList → splitImage image = (image, "") := by
  refine ⟨fun repository tag hr ht => ⟨?_, ?_⟩, fun image undigested => ?_, fun image digest => ?_⟩
  · exact splitImage_append hr.undigested ht
  · exact splitImage_of_untagged hr.undigested hr.untagged
  · by_cases h : ':' ∈ lastSegment image
    · obtain ⟨repository, tag, split, whole, ht⟩ := exists_of_colon_mem undigested h
      exact ⟨repository, tag, split, ht.unslashed, ht.uncoloned, .inl whole⟩
    · exact ⟨image, latest, splitImage_of_untagged undigested h, by decide, by decide,
        .inr ⟨rfl, rfl, h⟩⟩
  · exact if_pos digest

/-- The port of a registry is no tag, with a tag behind it and without. -/
theorem splitImage_parts_port :
    IsRepository "localhost:5000/größe" ∧ IsTag "1.0" ∧
    splitImage "localhost:5000/größe:1.0" = ("localhost:5000/größe", "1.0") ∧
    splitImage "localhost:5000/größe" = ("localhost:5000/größe", "latest") ∧
    splitImage "größe@sha256:abcd" = ("größe@sha256:abcd", "") ∧
    ∃ repository tag, splitImage "a:b:c" = (repository, tag) ∧ ':' ∉ tag.toList := by
  have repository : IsRepository "localhost:5000/größe" := ⟨by decide +kernel, by decide +kernel⟩
  have tag : IsTag "1.0" := ⟨by decide +kernel, by decide +kernel, by decide +kernel⟩
  obtain ⟨tagged, split, digested⟩ := splitImage_parts
  obtain ⟨whole, bare⟩ := tagged _ _ repository tag
  obtain ⟨r, t, hsplit, -, uncoloned, -⟩ := split "a:b:c" (by decide +kernel)
  exact ⟨repository, tag, whole, bare, digested _ (by decide +kernel), r, t, hsplit, uncoloned⟩

end Sandboxes.Container
