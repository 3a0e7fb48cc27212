import Sandboxes.Control.Envelope
import Sandboxes.Program

/-!
# Reports

What is written of the result of an operation: its payload to the output, and its message to the
error output, or as the failure of the command.
-/

namespace Sandboxes.Terminal

open Control

/-- What is written of a payload: a text, or the output of a shell, as it is, and anything else as an
indented document. -/
def shown : Option Json → String
  | none | some .null => ""
  | some (.str text) => text
  | some payload =>
    match (payload.get "output").string? with
    | some output => output
    | none => payload.pretty

/-- A text whose last line has its end, unless there is no text. -/
def ended (text : String) : String :=
  if text = "" ∨ text.toList.getLast? = some '\n' then text else text ++ "\n"

/-- Writes text to the output, unless there is none. -/
def printText (text : String) : Program Unit :=
  if text = "" then return () else Program.query (.print (Text.encode text))

/-- Writes text to the error output, unless there is none. -/
def complainText (text : String) : Program Unit :=
  if text = "" then return () else Program.query (.complain (Text.encode text))

/-- A text all of whose lines but the first stand behind a margin. -/
def hanging (margin text : String) : String :=
  Text.joined ("\n" ++ margin) ((Text.fields '\n' text.toList).map String.ofList)

/-- The messages of a failure, the outermost first. The causes below it are numbered if there are
several. -/
def faultText : List String → String
  | [] => ""
  | [message] => "Error: " ++ message ++ "\n"
  | [message, cause] =>
    "Error: " ++ message ++ "\n\nCaused by:\n    " ++ hanging "    " cause ++ "\n"
  | message :: causes =>
    let entry := fun (n : Nat) (cause : String) =>
      String.ofList ((toString n).toList.leftpad 5 ' ') ++ ": " ++ hanging "       " cause ++ "\n"
    "Error: " ++ message ++ "\n\nCaused by:\n" ++ String.join (causes.mapIdx entry)

/-- The words for an operation that failed without a message. -/
def unexplained : String := "Sandbox operation failed"

/-- Reports a result. The messages of a failure come outermost first. -/
def report (e : Envelope) : Program (Except (List String) Unit) := do
  printText (ended (shown e.data))
  if e.success then
    complainText ((e.message.map (· ++ "\n")).getD "")
    return .ok ()
  else return .error [e.message.getD unexplained]

end Sandboxes.Terminal
