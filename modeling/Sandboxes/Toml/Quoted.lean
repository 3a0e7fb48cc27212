import Sandboxes.Text.Digits

/-!
# Quoted strings of TOML

Basic strings with escapes and literal strings without, each on one line or between tripled quotes
over several lines. A line break is a line feed, also where the text has a carriage return before
it.
-/

namespace Sandboxes.Toml

/-- Characters that stand for themselves in comments and strings. -/
def isText (c : Char) : Bool :=
  c = '\t' || (0x20 ≤ c.toNat && c.toNat ≠ 0x7F)

/-- What follows a line break, if one comes. -/
def afterNewline? : List Char → Option (List Char)
  | '\n' :: cs => some cs
  | '\r' :: '\n' :: cs => some cs
  | _ => none

/-- The character with a number in hexadecimal digits. -/
def scalar? (digits : List Char) : Option Char := do
  let values ← digits.mapM Text.hexValue?
  let n := values.foldl (fun n v => n * 16 + v) 0
  if n < 0xD800 ∨ (0xE000 ≤ n ∧ n < 0x110000) then some (Char.ofNat n) else none

/-- What an escape of one letter stands for. -/
def escape? : Char → Option Char
  | 'b' => some (Char.ofNat 0x08)
  | 't' => some '\t'
  | 'n' => some '\n'
  | 'f' => some (Char.ofNat 0x0C)
  | 'r' => some '\r'
  | '"' => some '"'
  | '\\' => some '\\'
  | _ => none

/-- Reads an escape after its backslash. -/
def afterBackslash? : List Char → Option (Char × List Char)
  | 'u' :: a :: b :: c :: d :: cs => (scalar? [a, b, c, d]).map (·, cs)
  | 'U' :: a :: b :: c :: d :: e :: f :: g :: h :: cs =>
    (scalar? [a, b, c, d, e, f, g, h]).map (·, cs)
  | c :: cs => (escape? c).map (·, cs)
  | [] => none

/-- Puts characters in front of what was read. -/
def before (front : List Char) (r : List Char × List Char) : List Char × List Char :=
  (front ++ r.1, r.2)

/-- Reads the rest of a basic string on one line. `fuel` bounds the number of its characters. -/
def basic? : (fuel : Nat) → List Char → Option (List Char × List Char)
  | 0, _ => none
  | _, [] => none
  | fuel + 1, c :: cs =>
    if c = '"' then some ([], cs)
    else if c = '\\' then do
      let (c, cs) ← afterBackslash? cs
      return before [c] (← basic? fuel cs)
    else if isText c then do return before [c] (← basic? fuel cs)
    else none

/-- Reads the rest of a literal string on one line. -/
def literal? : List Char → Option (List Char × List Char)
  | [] => none
  | c :: cs =>
    if c = '\'' then some ([], cs)
    else if isText c then do return before [c] (← literal? cs)
    else none

/-- The end of a string between tripled quotes, if it comes: up to two more quotes belong to the
string. -/
def closing? (q : Char) : List Char → Option (List Char × List Char)
  | a :: b :: c :: cs =>
    if a = q ∧ b = q ∧ c = q then
      match cs with
      | d :: e :: rest =>
        if d = q ∧ e = q then some ([q, q], rest)
        else if d = q then some ([q], e :: rest)
        else some ([], cs)
      | [d] => if d = q then some ([q], []) else some ([], cs)
      | [] => some ([], [])
    else none
  | _ => none

/-- Skips blanks and line breaks. A carriage return must have its line feed. -/
def skipGaps : List Char → List Char
  | '\r' :: '\n' :: cs => skipGaps cs
  | c :: cs => if c = ' ' ∨ c = '\t' ∨ c = '\n' then skipGaps cs else c :: cs
  | [] => []

/-- What follows an escaped line break with all blanks and line breaks after it, given what stands
after the backslash. -/
def afterEscapedNewline? (cs : List Char) : Option (List Char) :=
  (afterNewline? (cs.dropWhile fun c => c = ' ' || c = '\t')).map skipGaps

/-- Reads the rest of a basic string over several lines. -/
def longBasic? : (fuel : Nat) → List Char → Option (List Char × List Char)
  | 0, _ => none
  | _, [] => none
  | fuel + 1, c :: cs =>
    match closing? '"' (c :: cs) with
    | some r => some r
    | none =>
      match afterNewline? (c :: cs) with
      | some rest => do return before ['\n'] (← longBasic? fuel rest)
      | none =>
        if c = '\\' then
          match afterEscapedNewline? cs with
          | some rest => longBasic? fuel rest
          | none => do
            let (c, cs) ← afterBackslash? cs
            return before [c] (← longBasic? fuel cs)
        else if isText c then do return before [c] (← longBasic? fuel cs)
        else none

/-- Reads the rest of a literal string over several lines. -/
def longLiteral? : (fuel : Nat) → List Char → Option (List Char × List Char)
  | 0, _ => none
  | _, [] => none
  | fuel + 1, c :: cs =>
    match closing? '\'' (c :: cs) with
    | some r => some r
    | none =>
      match afterNewline? (c :: cs) with
      | some rest => do return before ['\n'] (← longLiteral? fuel rest)
      | none =>
        if isText c then do return before [c] (← longLiteral? fuel cs) else none

/-- A text without the line break that it may begin with. -/
def dropNewline (cs : List Char) : List Char :=
  (afterNewline? cs).getD cs

/-- Reads a quoted string on one line. -/
def line? : List Char → Option (String × List Char)
  | '"' :: cs => (basic? (cs.length + 1) cs).map fun (s, rest) => (String.ofList s, rest)
  | '\'' :: cs => (literal? cs).map fun (s, rest) => (String.ofList s, rest)
  | _ => none

/-- Reads a quoted string of any kind. -/
def quoted? : List Char → Option (String × List Char)
  | '"' :: '"' :: '"' :: cs =>
    (longBasic? (cs.length + 1) (dropNewline cs)).map fun (s, rest) => (String.ofList s, rest)
  | '\'' :: '\'' :: '\'' :: cs =>
    (longLiteral? (cs.length + 1) (dropNewline cs)).map fun (s, rest) => (String.ofList s, rest)
  | cs => line? cs

end Sandboxes.Toml
