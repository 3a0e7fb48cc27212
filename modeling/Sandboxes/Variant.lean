import Sandboxes.Text.Blank
import Sandboxes.Text.Case

/-!
# Variants

There are two kinds of sandbox: the legacy image and the all-in-one image. A tag names one of them,
in any case and with blanks around it.
-/

namespace Sandboxes

/-- A kind of sandbox. -/
inductive Variant
  | legacy
  | aio
  deriving DecidableEq, Repr, Inhabited

namespace Variant

/-- Both variants. -/
def all : List Variant := [legacy, aio]

/-- The word for a variant. -/
def name : Variant → String
  | legacy => "legacy"
  | aio => "aio"

/-- The variant that a tag names. -/
def ofTag? (tag : String) : Option Variant :=
  let word := Text.lower (Text.trim tag)
  all.find? (·.name = word)

end Variant

end Sandboxes
