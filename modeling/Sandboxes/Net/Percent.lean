import Sandboxes.Text.Digits
import Sandboxes.Text.Pieces
import Sandboxes.Text.Utf8

/-!
# Percent coding

Bytes written as a percent sign and two hexadecimal digits, and the coding of form fields on top of
it, where a blank is a plus sign.
-/

namespace Sandboxes.Net

/-- A byte as a percent sign and two capital hexadecimal digits. -/
def percentByte (b : UInt8) : List Char :=
  '%' :: (Text.hexPadded 2 b.toNat).map Char.toUpper

/-- A text with every character in `escaped`, and every one beyond ASCII, as percent bytes. -/
def percentEncode (escaped : Char → Bool) (cs : List Char) : List Char :=
  cs.flatMap fun c =>
    if escaped c || 0x7F ≤ c.toNat then (Text.encode (String.singleton c)).flatMap percentByte
    else [c]

/-- Resolves the percent bytes. A percent sign without two digits after it stays. -/
def percentDecode : Bytes → Bytes
  | [] => []
  | 0x25 :: a :: b :: rest =>
    match Text.hexValue? (Char.ofNat a.toNat), Text.hexValue? (Char.ofNat b.toNat) with
    | some high, some low => UInt8.ofNat (high * 16 + low) :: percentDecode rest
    | _, _ => 0x25 :: percentDecode (a :: b :: rest)
  | c :: rest => c :: percentDecode rest

/-- Characters that form fields keep as they are. -/
def isPlain (b : UInt8) : Bool :=
  (Char.ofNat b.toNat).isAlphanum && b < 0x80 || "*-._".toList.contains (Char.ofNat b.toNat)

/-- A form field as written. -/
def formEncode (s : String) : String :=
  String.ofList ((Text.encode s).flatMap fun b =>
    if isPlain b then [Char.ofNat b.toNat] else if b == 0x20 then ['+'] else percentByte b)

/-- The text of a form field, with U+FFFD for bytes that are no text. -/
def formDecode (bs : Bytes) : String :=
  Text.decodeLenient (percentDecode (bs.map fun b => if b == 0x2B then 0x20 else b))

/-- The names and values of form fields joined with ampersands. -/
def formFields (query : String) : List (String × String) :=
  ((Text.fields 0x26 (Text.encode query)).filter (· ≠ [])).map fun field =>
    match Text.splitFirst? 0x3D field with
    | some (name, value) => (formDecode name, formDecode value)
    | none => (formDecode field, "")

end Sandboxes.Net
