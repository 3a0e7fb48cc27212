import Sandboxes.Text.Pieces

/-!
# Screens

A screen shows text in colours or it does not. Where it does, painted text stands between a sequence
that turns its style on and one that turns every style off.
-/

namespace Sandboxes.Terminal

/-- A colour of text. -/
inductive Colour
  | red
  | green
  | yellow
  | cyan
  deriving DecidableEq, Repr

/-- How text is set off from other text. -/
structure Style where
  bold : Bool
  dimmed : Bool
  colour : Option Colour
  deriving DecidableEq, Repr

/-- The number of a colour. -/
def Colour.code : Colour → String
  | red => "31"
  | green => "32"
  | yellow => "33"
  | cyan => "36"

namespace Style

/-- Text in one colour. -/
def of (c : Colour) : Style where
  bold := false
  dimmed := false
  colour := some c

/-- Titles: bold and yellow. -/
def title : Style where
  bold := true
  dimmed := false
  colour := some .yellow

/-- Text that stands back. -/
def faint : Style where
  bold := false
  dimmed := true
  colour := none

/-- The numbers of a style. -/
def codes (s : Style) : List String :=
  (if s.bold then ["1"] else []) ++ (if s.dimmed then ["2"] else []) ++
    (s.colour.map Colour.code).toList

/-- The sequence that turns a style on. -/
def opening (s : Style) : String :=
  "\x1b[" ++ Text.joined ";" s.codes ++ "m"

end Style

/-- The sequence that turns every style off. -/
def closing : String := "\x1b[0m"

/-- A screen. -/
structure Screen where
  coloured : Bool
  deriving DecidableEq, Repr

namespace Screen

/-- Text in a style. Where styles are turned off within the text, this one is turned on again. -/
def paint (s : Screen) (style : Style) (text : String) : String :=
  if s.coloured then
    style.opening ++ Text.replaceAll closing (closing ++ style.opening) text ++ closing
  else text

/-- Text in one colour. -/
def ink (s : Screen) (c : Colour) (text : String) : String :=
  s.paint (.of c) text

end Screen

end Sandboxes.Terminal
