import Sandboxes.Container.Creation
import Sandboxes.Container.Image
import Sandboxes.Docker.Request
import Sandboxes.Proofs.Net.Url

/-!
# Requests to the Docker daemon

The requests that running containers takes. Names are written into their paths as they are; the daemon
reads the same path if no character of a name has a meaning of its own there.
-/

namespace Sandboxes.Docker

namespace Request

/-- Asks whether the daemon is there. -/
def ping : Request := plain "GET" "/_ping" []

/-- Asks whether an image is there. -/
def imageInspection (image : String) : Request := plain "GET" ("/images/" ++ image ++ "/json") []

/-- Fetches an image. -/
def pull (image : String) : Request :=
  plain "POST" "/images/create"
    [("fromImage", (Container.splitImage image).1), ("tag", (Container.splitImage image).2)]

/-- Creates a container of that name. -/
def creation (name : String) (c : Container.Creation) : Request :=
  { plain "POST" "/containers/create" [("name", name)] with body := some c.toJson }

/-- Starts a container. -/
def start (name : String) : Request := plain "POST" ("/containers/" ++ name ++ "/start") []

/-- Asks for the networks of a container. -/
def inspection (name : String) : Request := plain "GET" ("/containers/" ++ name ++ "/json") []

/-- Removes a container by force. -/
def removal (name : String) : Request :=
  plain "DELETE" ("/containers/" ++ name) [("force", "true")]

end Request

/-! ### Paths -/

open Net.Url

/-- The daemon reads a path of verbatim characters as it is written, if it has no dot segments and
ends visibly. -/
lemma pathRead_of_verbatim {segments : List (List Char)} {front back : List Char}
    (verbatim : ∀ s ∈ segments, ∀ c ∈ s, isVerbatim c = true)
    (dots : ∀ s ∈ segments, dots? (Net.percentEncode escapedInPath s) = none)
    (ends : segments.flatMap ('/' :: ·) = front ++ back) (hback : back ≠ [])
    (visible : ∀ c ∈ back, 0x20 < c.toNat) :
    pathRead (.ofList (segments.flatMap ('/' :: ·))) = .ofList (segments.flatMap ('/' :: ·)) := by
  let path := segments.flatMap ('/' :: ·)
  let written := ("v1.47".toList :: segments).flatMap ('/' :: ·)
  have all : ∀ s ∈ "v1.47".toList :: segments, ∀ c ∈ s, isVerbatim c = true :=
    List.forall_mem_cons.mpr ⟨by simp [isVerbatim], verbatim⟩
  have kept := readable_of_verbatim all
  have whole : (root ++ String.ofList path).toList = written := by simp [root, path, written]
  have parts : (root ++ String.ofList path).toList = root.toList ++ front ++ back := by
    simp [path, ends]
  have clean : cleaned (root ++ String.ofList path) = written := by
    refine (cleaned_of_ends parts (by decide) hback (by simp [root]) visible fun c hc => ?_).trans
      whole
    rw [whole] at hc
    exact (kept c hc).2
  have span : spanUntil (fun c => c = '?' || c = '#') written = (written, []) := by
    refine spanUntil_of_forall fun c hc => ?_
    obtain ⟨⟨query, fragment, -⟩, -⟩ := kept c hc
    simp [query, fragment]
  have normal : normalPath (· = '/') (written.drop 1) =
      .ofList (root.toList ++ Net.percentEncode escapedInPath path) := by
    refine (normalPath_of_forall (fun t ht slash => ?_)
      (List.forall_mem_cons.mpr ⟨by decide, dots⟩)).trans ?_
    · exact (isVerbatim_iff.mp (all t ht _ slash)).1.1 rfl
    · rw [List.flatMap_cons, Net.percentEncode_append]
      rfl
  have below : Text.dropFront? root.toList (root.toList ++ Net.percentEncode escapedInPath path) =
      some (Net.percentEncode escapedInPath path) := Text.dropFront?_append ..
  have unescaped : '%' ∉ path := fun percent =>
    (kept _ (List.mem_append_right _ percent)).1.2.2 rfl
  change pathRead (.ofList path) = .ofList path
  simp only [pathRead, clean, span, normal, String.toList_ofList, below, Option.getD_some]
  rw [Net.percentDecode_percentEncode unescaped, Text.decodeLenient_encode]

/-- What the daemon reads of a request to remove a container whose name is made up of verbatim
characters, a hyphen and digits. -/
lemma Request.removal_of_verbatim {stem digits : List Char} (nonempty : digits ≠ [])
    (hstem : ∀ c ∈ stem, isVerbatim c = true) (hdigits : ∀ c ∈ digits, isUnreserved c = true) :
    removal (.ofList (stem ++ '-' :: digits)) =
      ⟨"DELETE", "/containers/" ++ .ofList (stem ++ '-' :: digits), [("force", "true")], none⟩ := by
  let name := stem ++ '-' :: digits
  have verbatim : ∀ c ∈ name, isVerbatim c = true := by
    intro c hc
    rcases List.mem_append.mp hc with hc | hc
    · exact hstem c hc
    · rcases List.mem_cons.mp hc with rfl | hc
      · decide
      · exact isVerbatim_of_isUnreserved (hdigits c hc)
  have dots : dots? (Net.percentEncode escapedInPath name) = none := by
    refine dots?_of_hyphen_mem ?_
    rw [Net.percentEncode_append, Net.percentEncode_cons]
    simp [escapedInPath]
  have written : String.ofList (["containers".toList, name].flatMap ('/' :: ·)) =
      "/containers/" ++ .ofList name := by
    rw [← String.toList_inj]
    simp
  have ends : ["containers".toList, name].flatMap ('/' :: ·) =
      ("/containers/".toList ++ stem ++ ['-']) ++ digits := by
    simp [name]
  have read : pathRead (.ofList (["containers".toList, name].flatMap ('/' :: ·))) =
      .ofList (["containers".toList, name].flatMap ('/' :: ·)) := by
    refine pathRead_of_verbatim ?_ ?_ ends nonempty fun c hc =>
      (plain_of_isUnreserved (hdigits c hc)).1.1
    · simpa [isVerbatim] using verbatim
    · simpa using ⟨by decide, dots⟩
  rw [written] at read
  rw [removal, Request.plain, read]

end Sandboxes.Docker
