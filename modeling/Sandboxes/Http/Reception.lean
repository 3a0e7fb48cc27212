import Sandboxes.Http
import Sandboxes.Text.Blank
import Sandboxes.Text.Case
import Sandboxes.Text.Digits
import Sandboxes.Text.Pieces

/-!
# Receptions

What the bytes say that a server sends until it closes the connection: heads of interim answers, then
the head of the answer and its body, in one piece or in chunks.
-/

namespace Sandboxes.Http

/-- The first line and what follows it. A line ends with a line feed, before which a carriage return
does not count. -/
def line? (bs : Bytes) : Option (String × Bytes) := do
  let (line, rest) ← Text.splitFirst? 10 bs
  return (Text.dropTrailing '\r' (Text.decodeLenient line), rest)

/-- The head of an answer: its status and its fields, with names in lower case. -/
structure Head where
  status : Nat
  fields : List (String × String)
  deriving DecidableEq, Repr

namespace Head

/-- The value of a field. -/
def value? (h : Head) (name : String) : Option String :=
  h.fields.lookup name

/-- A line with a field. -/
def field (line : String) : String × String :=
  match Text.splitFirst? ':' line.toList with
  | some (name, value) =>
    (Text.lower (Text.trim (String.ofList name)), Text.trim (String.ofList value))
  | none => (Text.lower (Text.trim line), "")

/-- Reads fields up to an empty line. There are at most as many as `fuel`. -/
def fields? : (fuel : Nat) → Bytes → Option (List (String × String) × Bytes)
  | 0, _ => none
  | fuel + 1, bs => do
    let (line, rest) ← line? bs
    if line = "" then return ([], rest)
    else
      let (more, rest) ← fields? fuel rest
      return (field line :: more, rest)

/-- The status of a line such as `HTTP/1.1 200 OK`. -/
def status? (line : String) : Option Nat := do
  match Text.fields ' ' line.toList with
  | _ :: code :: _ => (Text.readNat 1000 (String.ofList code)).toOption
  | _ => none

/-- Reads a head. -/
def read? (bs : Bytes) : Option (Head × Bytes) := do
  let (line, rest) ← line? bs
  let status ← status? line
  let (fields, rest) ← fields? bs.length rest
  return ({ status, fields }, rest)

end Head

/-- The size of a chunk, from the line before it. -/
def chunkSize? (line : String) : Option Nat := do
  let digits := line.toList.takeWhile fun c => (Text.hexValue? c).isSome
  if digits.isEmpty then none
  else return digits.foldl (fun n c => n * 16 + (Text.hexValue? c).getD 0) 0

/-- Joins chunks up to the empty one. There are at most as many as `fuel`. -/
def unchunk? : (fuel : Nat) → Bytes → Option Bytes
  | 0, _ => none
  | fuel + 1, bs => do
    let (line, rest) ← line? bs
    let size ← chunkSize? line
    if size = 0 then return []
    else if rest.length < size then none
    else
      let (_, next) ← line? (rest.drop size)
      return rest.take size ++ (← unchunk? fuel next)

/-- The body behind a head, if it is whole. -/
def body? (h : Head) (rest : Bytes) : Option Bytes :=
  if h.status = 204 ∨ h.status = 304 then some []
  else if h.value? "transfer-encoding" = some "chunked" then unchunk? rest.length rest
  else
    match h.value? "content-length" with
    | none => some rest
    | some length =>
      match Text.readNat (2 ^ 64) length with
      | .ok n => if n ≤ rest.length then some (rest.take n) else none
      | .error _ => none

/-- Skips the heads of interim answers, of which there are at most as many as `fuel`. -/
def outcomeWithin : (fuel : Nat) → Bytes → Outcome
  | 0, _ => .interrupted
  | fuel + 1, bs =>
    match Head.read? bs with
    | none => .interrupted
    | some (head, rest) =>
      if head.status < 200 then outcomeWithin fuel rest
      else .answered head.status (body? head rest)

/-- What became of a request, from all that the server sent. -/
def Outcome.ofBytes (bs : Bytes) : Outcome :=
  outcomeWithin bs.length bs

end Sandboxes.Http
