import Sandboxes.Control.Call

/-!
# Browsers

The browser of a sandbox is driven through its debugging address, where a document tells its version
and the websocket that automation attaches to.
-/

namespace Sandboxes

/-- The version document of a browser. -/
structure BrowserVersion where
  browser : String
  protocol : String
  websocket : String
  deriving DecidableEq, Repr

namespace BrowserVersion

/-- The members of a version document, in the order in which an array of their values has them. -/
def memberNames : List String := ["Browser", "Protocol-Version", "webSocketDebuggerUrl"]

/-- Reads a version document. Only the websocket must be given. -/
def ofJson? (j : Json) : Option BrowserVersion := do
  match ← Json.fields? memberNames j with
  | [browser, protocol, websocket] =>
    return {
      browser := ← Json.fieldOr "" Json.string? browser
      protocol := ← Json.fieldOr "" Json.string? protocol
      websocket := ← Json.needed Json.string? websocket }
  | _ => none

end BrowserVersion

/-- The debugging address of a browser. -/
structure Browser where
  address : String
  deriving DecidableEq, Repr

namespace Browser

/-- The browser at an address, of which slashes at the end are dropped. -/
def ofAddress (address : String) : Browser where
  address := Text.dropTrailing '/' address

/-- Stands for the reason why a request to the browser failed. -/
def cause : String := "<http>"

/-- How long the version document may take. -/
def limit : Duration := .ofSeconds 10

/-- Fetches the version document. A failure is told in several messages, the outermost first. -/
def version (b : Browser) : Program (Except (List String) BrowserVersion) := do
  let url := b.address ++ "/json/version"
  match ← Control.exchange "GET" url [] .nothing limit with
  | .error _ => return .error ["Failed to reach browser at " ++ url, cause]
  | .ok (status, body) =>
    if 400 ≤ status && status < 600 then
      return .error ["Browser at " ++ url ++ " returned an error", cause]
    else
      match (body.bind (Json.readRecord? BrowserVersion.memberNames)).bind
        BrowserVersion.ofJson? with
      | some version => return .ok version
      | none => return .error ["Invalid version document from " ++ url, cause]

/-- The websocket that automation attaches to. -/
def websocket (b : Browser) : Program (Except (List String) String) := do
  return (← b.version).map (·.websocket)

end Browser

end Sandboxes
