import Sandboxes.Control.Interface
import Sandboxes.Control.Operation
import Sandboxes.Program

/-!
# Calls

Sending requests to a control interface. A request whose address is no URL of a web server is not
sent at all; an answer counts only if its status says success and its body is whole.
-/

namespace Sandboxes.Control

/-! ### Single requests -/

/-- Sends a request to an address, with form fields in its query. Gives the status of the answer,
and its body if that is whole. -/
def exchange (method address : String) (fields : List (String × String)) (content : Http.Content)
    (limit : Duration) : Program (Except Fault (Nat × Option Bytes)) := do
  match Net.Url.ofText? address with
  | none =>
    return .error (match Net.Url.unhosted? address with
      | some text => .notWeb text
      | none => .noUrl)
  | some url =>
    let url := fields.foldl (fun url (name, value) => url.withField name value) url
    if url.isWeb then
      match ← Program.query (.fetch { method, url, content, limit }) with
      | .refused => return .error (.refused url.text)
      | .interrupted => return .error (.interrupted url.text)
      | .answered status body => return .ok (status, body)
    else return .error (.notWeb url.text)

/-- The body of an answer that says success, or the fault of one that does not. -/
def successful : Nat × Option Bytes → Except Fault Bytes
  | (status, body) =>
    if Net.isSuccess status then
      match body with
      | some bytes => .ok bytes
      | none => .error .unreadable
    else .error (.ofAnswer status body)

namespace Interface

/-- Sends a request to a path of the interface, and gives the body of a successful answer. -/
def send (i : Interface) (method path : String) (fields : List (String × String))
    (content : Http.Content) (limit : Duration) : Program (Except Fault Bytes) := do
  return (← exchange method (i.base ++ path) fields content limit).bind successful

/-- What a route is sent for the content of an operation. -/
def rendered (r : Route) : Http.Content → Http.Content
  | .json body => .json (r.render body)
  | content => content

/-- Posts the content of an operation to a route. -/
def post (i : Interface) (content : Http.Content) (r : Route) :
    Program (Except Fault Envelope) := do
  return (← i.send "POST" r.path [] (rendered r content) i.limit).bind r.decode

/-- Fetches a file on a route. -/
def fetch (i : Interface) (path : String) (r : Route) : Program (Except Fault Bytes) :=
  i.send "GET" r.path [("path", path)] .nothing i.limit

/-! ### Along the routes of a plan -/

/-- Posts content along a plan. A failure of every route is a result too. -/
def call (i : Interface) (p : Plan) (content : Http.Content) : Program Envelope := do
  match ← p.run (i.post content) with
  | .ok e => return e
  | .error words => return .failure words

/-- Fetches a file along a plan. -/
def download (i : Interface) (p : Plan) (path : String) : Program (Except Failure Bytes) := do
  return (← p.run (i.fetch path)).mapError .download

/-! ### Documents -/

/-- The value that the bytes of an answer spell. -/
def documentOf (bytes : Bytes) : Except Fault Json :=
  match Json.read? bytes with
  | some j => .ok j.settle
  | none => .error .malformed

/-- Fetches a JSON document within a time of its own. -/
def document (i : Interface) (path : String) (limit : Duration) : Program (Except Fault Json) := do
  return (← i.send "GET" path [] .nothing limit).bind documentOf

end Interface

end Sandboxes.Control
