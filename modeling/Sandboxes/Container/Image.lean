import Sandboxes.Text.Pieces

/-!
# Image references

A reference names a repository and, after a colon in its last segment, a tag. References by digest
have no tag.
-/

namespace Sandboxes.Container

/-- The tag of a reference that gives none. -/
def latest : String := "latest"

/-- The repository and the tag that a reference names. -/
def splitImage (image : String) : String × String :=
  let cs := image.toList
  if '@' ∈ cs then (image, "")
  else
    let (front, last) := match Text.splitLast? '/' cs with
      | some (before, after) => (before ++ ['/'], after)
      | none => ([], cs)
    match Text.splitLast? ':' last with
    | some (name, tag) => (String.ofList (front ++ name), String.ofList tag)
    | none => (image, latest)

end Sandboxes.Container
