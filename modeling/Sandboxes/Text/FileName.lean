import Sandboxes.Text.Pieces

/-!
# File names

The last step of a path. Empty steps and steps to the same directory do not count.
-/

namespace Sandboxes.Text

/-- The steps of a path that lead somewhere. -/
def steps (path : String) : List String :=
  ((fields '/' path.toList).map String.ofList).filter fun step => step ≠ "" ∧ step ≠ "."

/-- The last step of a path. A path that ends by going up, or goes nowhere, names no file. -/
def fileName? (path : String) : Option String :=
  (steps path).getLast?.filter (· ≠ "..")

end Sandboxes.Text
