import Sandboxes.Text.Case
import Sandboxes.Text.Pieces

/-!
# Media types

Whether a media type says that a body is JSON: the subtype is `json`, or `json` is its suffix after
the last plus sign. Parameters may follow, and must be well formed.
-/

namespace Sandboxes.Web

/-- Whether the character may stand in a name. -/
def isToken (c : Char) : Bool :=
  (c.isAlphanum && c.toNat < 0x80) || "!#$%&'+-.^_`|~".toList.contains c

/-! ### Parameters -/

/-- Where a reader of parameters stands. In names and values it knows whether they have begun. -/
inductive ParameterState
  | gap
  | name
  | value (begun : Bool)
  | quoted (begun : Bool)
  | after
  deriving DecidableEq, Repr

namespace ParameterState

/-- Takes one character. -/
def step : ParameterState → Char → Option ParameterState
  | gap, c => if c = ' ' then some gap else if isToken c then some name else none
  | name, c => if c = '=' then some (value false) else if isToken c then some name else none
  | value begun, c =>
    if c = '"' ∧ !begun then some (quoted false)
    else if c = ';' ∧ begun then some gap
    else if isToken c then some (value true) else none
  | quoted begun, c =>
    if c = '"' ∧ begun then some after
    else if c.toNat < 0x20 ∨ c.toNat = 0x7F then none else some (quoted true)
  | after, c => if c = ';' then some gap else if c = ' ' then some after else none

/-- Whether parameters may end here. -/
def mayEnd : ParameterState → Bool
  | gap | value _ | after => true
  | name | quoted _ => false

end ParameterState

/-- Whether the characters are parameters. -/
def areParameters (cs : List Char) : Bool :=
  match cs.foldlM ParameterState.step .gap with
  | some state => state.mayEnd
  | none => false

/-! ### Media types -/

/-- The type and the subtype of a media type that is well formed. -/
def essence? (text : String) : Option (List Char × List Char) := do
  let (kind, rest) ← Text.splitFirst? '/' text.toList
  let subtype := rest.takeWhile isToken
  match rest.dropWhile isToken with
  | [] => if kind ≠ [] ∧ kind.all isToken then some (kind, subtype) else none
  | c :: parameters =>
    if kind ≠ [] ∧ kind.all isToken ∧ subtype ≠ [] ∧ (c = ';' ∨ c = ' ') ∧
      areParameters parameters then some (kind, subtype)
    else none

/-- Whether the characters spell a word, whatever their case. -/
def spells (word : String) (cs : List Char) : Bool :=
  Text.lowerAscii (String.ofList cs) = word

/-- Whether a media type says that a body is JSON. -/
def isJsonType (text : String) : Bool :=
  match essence? text with
  | none => false
  | some (kind, subtype) =>
    spells "application" kind &&
      match Text.splitLast? '+' subtype with
      | none | some ([], _) => spells "json" subtype
      | some (name, suffix) => spells "json" name || spells "json" suffix

end Sandboxes.Web
