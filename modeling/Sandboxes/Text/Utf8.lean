/-!
# UTF-8

Reading bytes as text. The reader is a machine that takes one byte at a time and leaves a list of
pieces: characters, and faults where the bytes stop being UTF-8. Strict decoding refuses the first
fault and says where it is; lenient decoding writes U+FFFD for every fault. Cutting a text to a
number of bytes keeps whole characters only.
-/

namespace Sandboxes

/-- A sequence of bytes. -/
abbrev Bytes := List UInt8

namespace Text

/-- The bytes of a text. -/
def encode (s : String) : Bytes :=
  s.toUTF8.toList

/-! ### The reading machine -/

/-- Where the machine stands between two bytes. -/
inductive Reading
  /-- Between characters. -/
  | start
  /-- Inside a character: bytes owed, bounds of the next one, value and bytes so far. -/
  | inside (owed : Nat) (low high : UInt8) (value used : Nat)
  deriving DecidableEq, Repr

/-- What the machine makes of the bytes. -/
inductive Piece
  | char (c : Char)
  /-- The bytes read, `length` of them, cannot be continued to a character. -/
  | fault (length : Nat)
  /-- The bytes end inside a character, after `length` of its bytes. -/
  | cut (length : Nat)
  deriving DecidableEq, Repr

/-- Takes a byte that should open a character. -/
def Reading.opening (b : UInt8) : List Piece × Reading :=
  let n := b.toNat
  if n < 0x80 then ([.char (Char.ofNat n)], .start)
  else if n < 0xC2 then ([.fault 1], .start)
  else if n < 0xE0 then ([], .inside 1 0x80 0xBF (n - 0xC0) 1)
  else if n = 0xE0 then ([], .inside 2 0xA0 0xBF 0 1)
  else if n = 0xED then ([], .inside 2 0x80 0x9F 13 1)
  else if n < 0xF0 then ([], .inside 2 0x80 0xBF (n - 0xE0) 1)
  else if n = 0xF0 then ([], .inside 3 0x90 0xBF 0 1)
  else if n < 0xF4 then ([], .inside 3 0x80 0xBF (n - 0xF0) 1)
  else if n = 0xF4 then ([], .inside 3 0x80 0x8F 4 1)
  else ([.fault 1], .start)

/-- Takes one byte. A byte that does not continue the open character is read again as an opening
one. -/
def Reading.step : Reading → UInt8 → List Piece × Reading
  | .start, b => Reading.opening b
  | .inside owed low high value used, b =>
    if low ≤ b && b ≤ high then
      let value := value * 64 + b.toNat % 64
      if owed ≤ 1 then ([.char (Char.ofNat value)], .start)
      else ([], .inside (owed - 1) 0x80 0xBF value (used + 1))
    else
      let (pieces, next) := Reading.opening b
      (.fault used :: pieces, next)

/-- The pieces of a byte sequence. -/
def Reading.run : Reading → Bytes → List Piece
  | .start, [] => []
  | .inside _ _ _ _ used, [] => [.cut used]
  | r, b :: bs =>
    let (pieces, next) := r.step b
    pieces ++ next.run bs

/-- The pieces of a byte sequence, read from between characters. -/
def pieces (bs : Bytes) : List Piece :=
  Reading.run .start bs

/-! ### Decoding -/

/-- Where a byte sequence stops being UTF-8: `length` is absent when the bytes merely end inside a
character. -/
structure Fault where
  index : Nat
  length : Option Nat
  deriving DecidableEq, Repr

/-- Words for a fault. -/
def Fault.message (f : Fault) : String :=
  match f.length with
  | some n => s!"invalid utf-8 sequence of {n} bytes from index {f.index}"
  | none => s!"incomplete utf-8 byte sequence from index {f.index}"

/-- Collects the characters of the pieces, or stops at the first fault. `index` bytes precede. -/
def collect (index : Nat) : List Piece → Except Fault (List Char)
  | [] => .ok []
  | .char c :: ps => do return c :: (← collect (index + c.utf8Size) ps)
  | .fault n :: _ => .error ⟨index, some n⟩
  | .cut _ :: _ => .error ⟨index, none⟩

/-- The text that the bytes spell, if they are UTF-8. -/
def decode (bs : Bytes) : Except Fault String :=
  (collect 0 (pieces bs)).map String.ofList

/-- The text that the bytes spell, if they are UTF-8. -/
def decode? (bs : Bytes) : Option String :=
  (decode bs).toOption

/-- The character that a piece becomes when faults are forgiven. -/
def Piece.lenient : Piece → Char
  | .char c => c
  | .fault _ | .cut _ => Char.ofNat 0xFFFD

/-- The text that the bytes spell, with U+FFFD in place of every fault. -/
def decodeLenient (bs : Bytes) : String :=
  String.ofList ((pieces bs).map Piece.lenient)

/-! ### Cutting -/

/-- The number of bytes that the characters take. -/
def byteLength : List Char → Nat
  | [] => 0
  | c :: cs => c.utf8Size + byteLength cs

/-- Whether `n` bytes into the text a character ends or begins. -/
def isBoundary : List Char → Nat → Bool
  | _, 0 => true
  | [], _ + 1 => false
  | c :: cs, n => c.utf8Size ≤ n && isBoundary cs (n - c.utf8Size)

/-- The last boundary at or before `n`, looking backwards from it. -/
def boundaryAtMost (cs : List Char) : Nat → Nat
  | 0 => 0
  | n + 1 => if isBoundary cs (n + 1) then n + 1 else boundaryAtMost cs n

/-- The characters that end within the first `n` bytes. -/
def takeBytes : Nat → List Char → List Char
  | _, [] => []
  | n, c :: cs => if c.utf8Size ≤ n then c :: takeBytes (n - c.utf8Size) cs else []

/-- A text cut to at most `limit` bytes, at the last character boundary that allows it. -/
def clip (limit : Nat) (s : String) : String :=
  let cs := s.toList
  if byteLength cs ≤ limit then s
  else String.ofList (takeBytes (boundaryAtMost cs limit) cs)

end Text

end Sandboxes
