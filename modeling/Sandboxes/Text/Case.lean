import Sandboxes.Text.Case.Table

/-!
# Lower case

Lower-casing a text by the full Unicode mapping: the simple mapping of each character, the two
characters of a dotted capital I, and the two shapes of a small sigma.
-/

namespace Sandboxes.Text

/-- The code point `n` lower-cased by the run, when the run covers it. -/
def CaseRun.lower? (r : CaseRun) (n : Nat) : Option Nat :=
  if r.first ≤ n && n ≤ r.last && (n - r.first) % r.step == 0 then
    some (Int.toNat (n + r.shift))
  else none

/-- The lower case of one character, regardless of what stands around it. -/
def lowerChar (c : Char) : List Char :=
  if c.toNat = 0x130 then ['i', Char.ofNat 0x307]
  else match lowerRuns.findSome? (·.lower? c.toNat) with
    | some n => [Char.ofNat n]
    | none => [c]

/-- Whether some range contains the character. -/
def inRanges (ranges : List (Nat × Nat)) (c : Char) : Bool :=
  ranges.any fun r => r.1 ≤ c.toNat && c.toNat ≤ r.2

/-- Whether the first character that does not count as case ignorable is cased. -/
def startsCased (cs : List Char) : Bool :=
  match cs.dropWhile (inRanges ignorableRanges) with
  | [] => false
  | c :: _ => inRanges casedRanges c

/-- Lower-cases `cs`, where `before` stands in front of it in reverse. A capital sigma that ends a
word becomes a final sigma. -/
def lowerFrom (before : List Char) : List Char → List Char
  | [] => []
  | c :: cs =>
    let here :=
      if c = 'Σ' then
        [if startsCased before && !startsCased cs then 'ς' else 'σ']
      else lowerChar c
    here ++ lowerFrom (c :: before) cs

/-- A text in lower case. -/
def lower (s : String) : String :=
  String.ofList (lowerFrom [] s.toList)

/-- A text with its ASCII capitals in lower case. -/
def lowerAscii (s : String) : String :=
  String.ofList (s.toList.map Char.toLower)

end Sandboxes.Text
