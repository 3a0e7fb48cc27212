import Sandboxes.Comparison
import Sandboxes.Json.Record
import Sandboxes.Json.Source
import Sandboxes.Net.Percent
import Sandboxes.Service
import Sandboxes.Web.Answer
import Sandboxes.Web.MediaType

/-!
# The web interface

Each path has an endpoint, and each endpoint its methods; a request for what an endpoint gives may
also ask for the head of the answer alone. Path and query are looked at only once an endpoint is
found that knows the method.
-/

namespace Sandboxes.Web

/-! ### Endpoints -/

/-- What can be asked for. -/
inductive Endpoint
  /-- Whether the interface itself is up. -/
  | liveness
  /-- The default variant. -/
  | variant
  /-- The addresses of a sandbox; its name is as it stands in the path. -/
  | status (segment : Bytes)
  /-- The health of a variant. -/
  | health
  /-- The comparison of the variants. -/
  | compare
  deriving DecidableEq, Repr

/-- The endpoint of a path. -/
def Endpoint.ofPath? (path : String) : Option Endpoint :=
  match Text.fields '/' path.toList with
  | [[], first] => if first = "health".toList then some liveness else none
  | [[], first, second] =>
    if first ≠ "sandbox".toList then none
    else if second = "type".toList then some variant
    else if second = "health".toList then some health
    else if second = "compare".toList then some compare
    else none
  | [[], first, second, name] =>
    if first = "sandbox".toList ∧ second = "status".toList ∧ name ≠ [] then
      some (status (Text.encode (String.ofList name)))
    else none
  | _ => none

/-- Path and query of a target. -/
def splitTarget (target : String) : String × String :=
  let whole := match Text.splitFirst? '#' target.toList with
    | some (before, _) => before
    | none => target.toList
  match Text.splitFirst? '?' whole with
  | some (path, query) => (String.ofList path, String.ofList query)
  | none => (String.ofList whole, "")

/-! ### What requests say -/

/-- Stands for the reason why a body is no request for a variant. -/
def badBody : String := "<bad JSON body>"

/-- Stands for the reason why a query cannot be read. -/
def badQuery : String := "<bad query>"

/-- The most bytes that a body may have. -/
def maxBody : Nat := 2 * 2 ^ 20

/-- The tag that a query gives, if it does. It must not give two. -/
def queryTag (query : String) : Except Answer (Option String) :=
  match (Net.formFields query).filter (·.1 = "sandbox_type") with
  | [] => .ok none
  | [(_, tag)] => .ok (some tag)
  | _ => .error (.plain 400 badQuery)

/-- The variant that a query asks for, if it does. -/
def queryVariant (query : String) : Except Answer (Option Variant) := do
  match ← queryTag query with
  | none => return none
  | some tag =>
    match Variant.parse tag with
    | .ok v => return some v
    | .error f => throw (.ofFailure f)

/-- The name of a sandbox in a path. -/
def pathName (segment : Bytes) : Except Answer String :=
  match Text.decode? (Net.percentDecode segment) with
  | some name => .ok name
  | none => .error (.plain 400 "Invalid URL: Invalid UTF-8 in `sandbox_id`")

/-- The tag that a body asks for. -/
def bodyTag? (body : Bytes) : Option String := do
  let j ← Json.readRecord? ["sandbox_type"] body
  match ← Json.fields? ["sandbox_type"] j with
  | [tag] => Json.needed Json.string? tag
  | _ => none

/-- The tag that a request asks for with its body. -/
def requestTag (r : Request) : Except Answer String :=
  if !(r.contentType.any isJsonType) then
    .error (.failure 400 "Expected request with `Content-Type: application/json`")
  else if maxBody < r.body.length then
    .error (.failure 400 "Failed to buffer the request body: length limit exceeded")
  else
    match bodyTag? r.body with
    | some tag => .ok tag
    | none => .error (.failure 400 badBody)

/-! ### What answers give -/

/-- The default variant, the variants there are, and whether the all-in-one variant may be used. -/
def variantDocument (s : Service) : Json :=
  .obj [("aio_enabled", .bool s.settings.aio.enabled),
    ("available_types", Json.ofStrings (Variant.all.map Variant.name)),
    ("sandbox_type", .str s.settings.defaultVariant.name)]

/-- The addresses of a sandbox. -/
def statusDocument (h : Handle) : Json :=
  .obj [("base_url", .str h.interface.base), ("cdp_url", .str h.cdpUrl),
    ("sandbox_id", .str h.id), ("sandbox_type", .str h.variant.name),
    ("status", .str "running"), ("vnc_url", .str h.vncUrl)]

/-- What a health check found. -/
def healthDocument (h : Health) : Json :=
  let fault := match h.fault with
    | some words => [("error_message", Json.str words)]
    | none => []
  .obj (fault ++ [("is_healthy", .bool h.isHealthy), ("response_time_ms", .num (.float h.millis))])

/-! ### Answering -/

/-- Either outcome of reading a request. -/
def answerOf : Except Answer Answer → Answer
  | .ok a => a
  | .error a => a

/-- Says whether a variant may be used. Nothing is changed. -/
def prefer (s : Service) (r : Request) : Answer :=
  answerOf do
    let tag ← requestTag r
    match Variant.parse tag >>= s.validate with
    | .ok _ => return .success (variantDocument s)
    | .error f => throw (.ofFailure f)

/-- Gives the addresses of a sandbox. -/
def giveStatus (s : Service) (segment : Bytes) (query : String) : Program Answer := do
  let asked := do
    let name ← pathName segment
    let v ← queryVariant query
    return (name, v)
  match asked with
  | .error answer => return answer
  | .ok (name, v) =>
    match ← s.get name v with
    | .ok handle => return .success (statusDocument handle)
    | .error f => return .ofFailureIn "Failed to get sandbox status" f

/-- Gives the health of a variant. -/
def giveHealth (s : Service) (query : String) : Program Answer := do
  match queryVariant query with
  | .error answer => return answer
  | .ok v => return .success (healthDocument (← s.checkHealth v))

/-- Gives what an endpoint has. -/
def give (s : Service) (query : String) : Endpoint → Program Answer
  | .liveness => return { status := 200, content := .json (.obj [("status", .str "ok")]) }
  | .variant => return .success (variantDocument s)
  | .status segment => giveStatus s segment query
  | .health => giveHealth s query
  | .compare =>
    return .success (comparison s.settings.defaultVariant s.settings.aio.enabled)

/-- Answers a request. -/
def respond (s : Service) (r : Request) : Program Answer := do
  let (path, query) := splitTarget r.target
  match Endpoint.ofPath? path with
  | none =>
    let answer := Answer.failure 404 "Not Found"
    return if r.method = "HEAD" then answer.withoutBody else answer
  | some endpoint =>
    if r.method = "GET" then give s query endpoint
    else if r.method = "HEAD" then return (← give s query endpoint).withoutBody
    else if r.method = "POST" ∧ endpoint = .variant then return prefer s r
    else return .plain 405 ""

end Sandboxes.Web
