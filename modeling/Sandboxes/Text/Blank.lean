/-!
# White space

The characters with the Unicode property `White_Space`, and trimming a text of them at both ends.
-/

namespace Sandboxes.Text

/-- Characters with the Unicode property `White_Space`. -/
def isBlank (c : Char) : Bool :=
  let n := c.toNat
  (0x09 ≤ n && n ≤ 0x0D) || n == 0x20 || n == 0x85 || n == 0xA0 || n == 0x1680 ||
  (0x2000 ≤ n && n ≤ 0x200A) || n == 0x2028 || n == 0x2029 || n == 0x202F || n == 0x205F ||
  n == 0x3000

/-- Drops the characters that satisfy `p` from both ends. -/
def trimBy (p : Char → Bool) (cs : List Char) : List Char :=
  ((cs.dropWhile p).reverse.dropWhile p).reverse

/-- A text without its leading and trailing white space. -/
def trim (s : String) : String :=
  String.ofList (trimBy isBlank s.toList)

/-- Whether a text holds nothing but white space. -/
def allBlank (s : String) : Bool :=
  s.toList.all isBlank

/-- Drops every trailing `c`. -/
def dropTrailing (c : Char) (s : String) : String :=
  String.ofList ((s.toList.reverse.dropWhile (· == c)).reverse)

end Sandboxes.Text
