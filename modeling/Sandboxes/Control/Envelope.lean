import Sandboxes.Json.Printer
import Sandboxes.Json.Record
import Sandboxes.Json.Source
import Sandboxes.Control.Fault

/-!
# Result envelopes

The result of an operation inside a sandbox, as control interfaces write it: whether it succeeded, a
message, and a payload of any form.
-/

namespace Sandboxes.Control

/-- The result of an operation. -/
structure Envelope where
  success : Bool
  message : Option String
  data : Option Json
  deriving Repr, BEq

namespace Envelope

/-- A failure in these words. -/
def failure (message : String) : Envelope where
  success := false
  message := some message
  data := none

/-- The members of an envelope, in the order in which an array of their values has them. -/
def memberNames : List String := ["success", "message", "data"]

/-- A payload, of which null is none. -/
def payload? : Json → Option (Option Json) :=
  Json.optional? fun j => some j.settle

/-- Reads an envelope. -/
def ofJson? (j : Json) : Option Envelope := do
  match ← Json.fields? memberNames j with
  | [success, message, data] =>
    return {
      success := ← Json.needed Json.bool? success
      message := ← Json.fieldOr none (Json.optional? Json.string?) message
      data := ← Json.fieldOr none payload? data }
  | _ => none

/-- Writes an envelope. An absent message is left out, an absent payload is null. -/
def toJson (e : Envelope) : Json :=
  let message := match e.message with
    | some text => [("message", Json.str text)]
    | none => []
  .obj ([("data", e.data.getD .null)] ++ message ++ [("success", .bool e.success)])

/-- The result that the answer of a native shell stands for: its output as the payload, and its
error as the message unless that is empty. -/
def ofShell (answer : Json) : Envelope where
  success := true
  message := ((answer.get? "error").bind Json.string?).filter (· ≠ "")
  data := some ((answer.get? "output").getD (.str ""))

end Envelope

end Sandboxes.Control
