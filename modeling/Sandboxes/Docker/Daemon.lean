import Sandboxes.Container.Address
import Sandboxes.Container.Creation
import Sandboxes.Container.Image
import Sandboxes.Json.Record
import Sandboxes.Json.Source
import Sandboxes.Program

/-!
# The Docker daemon

The requests to the daemon that running containers takes, with what makes each of them fail.
-/

namespace Sandboxes.Docker

/-! ### Faults -/

/-- Why a request to the daemon failed. -/
inductive Fault
  /-- The connection failed. -/
  | broken (reason : String)
  /-- The daemon refused, in these words. -/
  | refused (status : Nat) (words : String)
  /-- Something went wrong while the daemon was at work. -/
  | stream
  /-- The daemon stopped in the middle of a message. -/
  | cut
  /-- The answer is not what it should be. -/
  | malformed
  deriving DecidableEq, Repr

/-- The words for a fault. -/
def Fault.message : Fault → String
  | broken reason => reason
  | refused status words => s!"Docker responded with status code {status}: {words}"
  | stream => "Docker stream error"
  | cut => "bytes remaining on stream"
  | malformed => "Failed to deserialize JSON: <json>"

/-- Whether the daemon knows nothing of that name. -/
def Fault.isMissing : Fault → Bool
  | refused 404 _ => true
  | _ => false

/-! ### Answers -/

/-- Whether the status says that the daemon did, or had done, what it was asked. -/
def succeeded (status : Nat) : Bool :=
  status < 300 || status = 304

/-- The words of a refusal: the message in its document, or else the body as it is. -/
def wordsOf (body : Bytes) : String :=
  let message? := do
    match ← Json.fields? ["message"] (← Json.readRecord? ["message"] body) with
    | [message] => Json.needed Json.string? message
    | _ => none
  message?.getD (Text.decodeLenient body)

/-- Sends a request, and gives the body of an answer that says success. -/
def request (r : Request) : Program (Except Fault Bytes) := do
  match ← Program.query (.docker r) with
  | .error reason => return .error (.broken reason)
  | .ok answer =>
    if succeeded answer.status then return .ok answer.body
    else return .error (.refused answer.status (wordsOf answer.body))

/-- What a body says, read by `f`. -/
def reading {α : Type} (f : Json → Option α) (body : Bytes) : Except Fault α :=
  match (Json.read? body).bind fun j => f j.settle with
  | some a => .ok a
  | none => .error .malformed

/-! ### Progress messages -/

/-- The error that a progress message tells of; none if the message is not of that form. -/
def progress? (j : Json) : Option (Option String) :=
  if j.isObj then (Json.optional? Json.string? (j.get "error")).map (·.filter (· ≠ ""))
  else none

/-- What becomes of one line of progress messages. -/
inductive Line
  | fine
  | failed (fault : Fault)
  /-- There is no message on it. -/
  | blank

/-- Reads one line of progress messages. -/
def lineOf (line : Bytes) : Line :=
  match Json.read? line with
  | some j =>
    match progress? j.settle with
    | some none => .fine
    | some (some _) => .failed .stream
    | none => .failed .malformed
  | none => if line.all Json.isGap then .blank else .failed .malformed

/-- Reads lines of progress messages. A blank line, which is `held`, is taken together with the next
one; by then the whole stream has come in, and another blank line must be its empty end. -/
def progressOf : (held : Option Bytes) → List Bytes → Except Fault Unit
  | _, [] => .ok ()
  | held, line :: rest =>
    let line := held.getD [] ++ line
    match lineOf line with
    | .fine => progressOf (held.map fun _ => []) rest
    | .failed fault => .error fault
    | .blank =>
      if line = [] ∧ (rest = [] ∨ rest = [[]]) then .ok ()
      else if rest = [] ∨ held.isSome then .error .cut
      else progressOf (some line) rest

/-- Whether the progress messages tell of no error. -/
def progress (body : Bytes) : Except Fault Unit :=
  progressOf none (Text.fields 10 body)

/-! ### Requests -/

/-- Asks whether the daemon is there. -/
def ping : Program (Except Fault Unit) := do
  return (← request (.plain "GET" "/_ping" [])).map fun _ => ()

/-- Asks whether an image is there. -/
def inspectImage (image : String) : Program (Except Fault Unit) := do
  let known (j : Json) : Option Unit := if j.isObj then some () else none
  return (← request (.plain "GET" ("/images/" ++ image ++ "/json") [])).bind (reading known)

/-- Fetches an image from its registry. -/
def pull (image : String) : Program (Except Fault Unit) := do
  let (repository, tag) := Container.splitImage image
  let query := [("fromImage", repository), ("tag", tag)]
  return (← request (.plain "POST" "/images/create" query)).bind progress

/-- The confirmation that a container was created: its number and what the daemon warns of. -/
def created? (j : Json) : Option Unit := do
  let _ ← (j.get "Id").string?
  let warnings ← j.get? "Warnings"
  let _ ← Json.optional? (fun j => do (← j.items?).mapM Json.string?) warnings

/-- Creates a container of that name. -/
def create (name : String) (c : Container.Creation) : Program (Except Fault Unit) := do
  let r : Request := { Request.plain "POST" "/containers/create" [("name", name)] with
    body := some c.toJson }
  return (← request r).bind (reading created?)

/-- Starts a container. -/
def start (name : String) : Program (Except Fault Unit) := do
  return (← request (.plain "POST" ("/containers/" ++ name ++ "/start") [])).map fun _ => ()

/-- Asks for the networks of a container. -/
def inspect (name : String) : Program (Except Fault Container.Networks) := do
  return (← request (.plain "GET" ("/containers/" ++ name ++ "/json") [])).bind
    (reading Container.Networks.ofJson?)

/-- Removes a container, even if it runs. -/
def remove (name : String) : Program (Except Fault Unit) := do
  return (← request (.plain "DELETE" ("/containers/" ++ name) [("force", "true")])).map
    fun _ => ()

end Sandboxes.Docker
