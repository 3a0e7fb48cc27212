import Sandboxes.Toml.Quoted
import Sandboxes.Toml.Scalar
import Sandboxes.Toml.Table

/-!
# Reading TOML

Reads a TOML document as the value that it describes: a tree of tables, arrays and scalars. Keys are
bare or quoted, joined with dots; values may be nested in arrays and inline tables up to a limit.
-/

namespace Sandboxes.Toml

/-- How deep values may be nested, and how many parts a dotted key may have, plus one. -/
def nestingLimit : Nat := 80

/-! ### Blanks and line ends -/

/-- Skips blanks within a line. -/
def skipBlanks (cs : List Char) : List Char :=
  cs.dropWhile fun c => c = ' ' || c = '\t'

/-- Skips a comment up to the end of its line. -/
def skipComment : List Char → List Char
  | '#' :: cs => cs.dropWhile isText
  | cs => cs

/-- What follows the end of a line: blanks, a comment and a line break or the end of the text. -/
def endLine? (cs : List Char) : Option (List Char) :=
  match skipComment (skipBlanks cs) with
  | [] => some []
  | cs => afterNewline? cs

/-- Skips blanks, comments and line ends between the elements of an array. -/
def skipLines : (fuel : Nat) → List Char → List Char
  | 0, cs => cs
  | fuel + 1, cs =>
    match skipComment (skipBlanks cs) with
    | [] => []
    | rest => match afterNewline? rest with
      | some rest => skipLines fuel rest
      | none => rest

/-! ### Keys -/

/-- Characters of a bare key. -/
def isBare (c : Char) : Bool :=
  (c.isAlphanum && c.toNat < 0x80) || c = '_' || c = '-'

/-- Reads one part of a key. -/
def part? (cs : List Char) : Option (String × List Char) :=
  match line? cs with
  | some r => some r
  | none =>
    match cs.takeWhile isBare with
    | [] => none
    | name => some (String.ofList name, cs.dropWhile isBare)

/-- Reads a key: parts joined with dots, blanks around them allowed. -/
def key? : (fuel : Nat) → List Char → Option (List String × List Char)
  | 0, _ => none
  | fuel + 1, cs => do
    let (name, rest) ← part? (skipBlanks cs)
    match skipBlanks rest with
    | '.' :: rest => do
      let (names, rest) ← key? fuel rest
      return (name :: names, rest)
    | rest => return ([name], rest)

/-- Reads a key within the limit on its parts: those but the last, the last, and the rest. -/
def path? (cs : List Char) : Option (List String × String × List Char) := do
  let (names, rest) ← key? (cs.length + 1) cs
  match names.reverse with
  | last :: front => if names.length < nestingLimit then some (front.reverse, last, rest) else none
  | [] => none

/-! ### Values -/

/-- Whether the character ends a word. -/
def endsWord (c : Char) : Bool :=
  c = ' ' || c = '\t' || c = '\n' || c = '\r' || c = ',' || c = ']' || c = '}' || c = '#'

/-- Whether a time of day begins. -/
def beginsTime : List Char → Bool
  | a :: b :: ':' :: _ => Text.isDigit a && Text.isDigit b
  | _ => false

/-- Reads a plain scalar. A date and a time may be separated by a blank. -/
def plain? (cs : List Char) : Option (Json × List Char) :=
  let word := cs.takeWhile (!endsWord ·)
  let rest := cs.dropWhile (!endsWord ·)
  match (date? word), rest with
  | some (_, []), ' ' :: more =>
    if beginsTime more then
      (word? (word ++ 'T' :: more.takeWhile (!endsWord ·))).map (·, more.dropWhile (!endsWord ·))
    else (word? word).map (·, rest)
  | _, _ => (word? word).map (·, rest)

mutual

/-- Reads a value that is nested `depth` deep. `fuel` bounds the number of steps. -/
def value? : (fuel depth : Nat) → List Char → Option (Json × List Char)
  | 0, _, _ => none
  | _, _, [] => none
  | fuel + 1, depth, c :: cs =>
    if c = '"' ∨ c = '\'' then (quoted? (c :: cs)).map fun (s, rest) => (.str s, rest)
    else if c = '[' then
      if nestingLimit ≤ depth + 1 then none
      else do
        let (items, rest) ← items? fuel (depth + 1) cs
        return (.arr items, rest)
    else if c = '{' then
      if nestingLimit ≤ depth + 1 then none
      else do
        let (table, rest) ← members? fuel (depth + 1) true Table.fresh cs
        return (table.value, rest)
    else plain? (c :: cs)

/-- Reads the elements of an array and the bracket after them. -/
def items? : (fuel depth : Nat) → List Char → Option (List Json × List Char)
  | 0, _, _ => none
  | fuel + 1, depth, cs =>
    match skipLines cs.length cs with
    | ']' :: rest => some ([], rest)
    | cs => do
      let (item, rest) ← value? fuel depth cs
      match skipLines rest.length rest with
      | ']' :: rest => return ([item], rest)
      | ',' :: rest => do
        let (items, rest) ← items? fuel depth rest
        return (item :: items, rest)
      | _ => none

/-- Reads the entries of an inline table and the brace after them. `first` tells that none was read
yet, so that the brace may come at once. -/
def members? : (fuel depth : Nat) → (first : Bool) → Table → List Char → Option (Table × List Char)
  | 0, _, _, _, _ => none
  | fuel + 1, depth, first, table, cs =>
    match first, skipBlanks cs with
    | true, '}' :: rest => some (table, rest)
    | _, cs => do
      let (path, name, rest) ← path? cs
      let rest ← Text.dropFront? ['='] rest
      let (value, rest) ← value? fuel depth (skipBlanks rest)
      let table ← table.assign path name value
      match skipBlanks rest with
      | '}' :: rest => return (table, rest)
      | ',' :: rest => members? fuel depth false table rest
      | _ => none

end

/-! ### Documents -/

/-- The document so far, and the header under which entries are read. -/
structure State where
  root : Table
  header : List String

/-- Adds an entry below the current header. -/
def State.assign (s : State) (path : List String) (name : String) (value : Json) : Option State := do
  let root ← s.root.change false s.header (Table.assign path name value)
  return { s with root }

/-- Reads one line of a document that is not blank. -/
def line (s : State) (cs : List Char) : Option (State × List Char) :=
  match cs with
  | '[' :: '[' :: cs => do
    let (path, name, rest) ← path? cs
    let rest ← Text.dropFront? [']', ']'] rest
    let root ← s.root.push? path name
    return (⟨root, path ++ [name]⟩, ← endLine? rest)
  | '[' :: cs => do
    let (path, name, rest) ← path? cs
    let rest ← Text.dropFront? [']'] rest
    let root ← s.root.open? path name
    return (⟨root, path ++ [name]⟩, ← endLine? rest)
  | cs => do
    let (path, name, rest) ← path? cs
    let rest ← Text.dropFront? ['='] rest
    let rest := skipBlanks rest
    let (value, rest) ← value? (2 * rest.length + 2) 0 rest
    return (← s.assign path name value, ← endLine? rest)

/-- Reads the remaining lines of a document. -/
def lines : (fuel : Nat) → State → List Char → Option State
  | 0, _, _ => none
  | fuel + 1, s, cs =>
    match endLine? cs, skipBlanks cs with
    | _, [] => some s
    | some rest, _ => lines fuel s rest
    | none, cs => do
      let (s, rest) ← line s cs
      lines fuel s rest

/-- The value that a TOML document describes. A byte order mark in front is skipped. -/
def read? (text : String) : Option Json := do
  let cs := match text.toList with
    | c :: cs => if c.toNat = 0xFEFF then cs else c :: cs
    | [] => []
  let s ← lines (cs.length + 1) ⟨Table.fresh, []⟩ cs
  return s.root.value

end Sandboxes.Toml
