import Std.Async.Signal
import Std.Http.Server
import Sandboxes.Command.Run
import Sandboxes.Web.Surface
import Sandboxes.World.Reply

/-!
# Listening

Serving the web interface on the network until the program is interrupted.
-/

namespace Sandboxes.World

open Std.Async Std.Http

/-- A service with the memory that its requests share. -/
structure Site where
  service : Service
  memory : IO.Ref Memory

/-- The answer as it goes to whoever asked. -/
def response (a : Web.Answer) : Async (Response Body.Full) :=
  let (mediaType, text) := match a.content with
    | .json document => ("application/json", document.compact)
    | .text words => ("text/plain; charset=utf-8", words)
  let status := (Status.ofCode none (.ofNat a.status)).getD .internalServerError
  let bare := Response.withStatus status
  let described := if text = "" then bare else (bare.header? "Content-Type" mediaType).getD bare
  described.fromBytes text.toUTF8

/-- Answers a request. -/
def Site.answer (s : Site) (r : Request Body.Stream) : ContextAsync (Response Body.Any) := do
  let content : ByteArray ← r.body.readAll
  let request : Web.Request :=
    { method := toString r.line.method
      target := toString r.line.uri
      contentType := (r.line.headers.get? .contentType).map toString
      body := content.toList }
  let answering ← IO.asTask (execute s.memory (Web.respond s.service request)) .dedicated
  let answer ← Async.ofAsyncTask answering
  let body : Response Body.Full ← response answer
  return body

instance : Server.Handler Site where
  onRequest s r := s.answer r

/-- The address of the network that a text means. -/
def resolve (a : Net.SocketAddress) : Async Std.Net.SocketAddress := do
  match (← DNS.getAddrInfo (bareHost a.host) "").toList with
  | ip :: _ => return socketAddress ip a.port
  | [] => throw (IO.userError "no address for the host")

/-- Serves the web interface at an address until the program is interrupted. -/
def serve (s : Site) (bind : String) (a : Net.SocketAddress) : IO (Except (List String) Unit) := do
  let listening ← told (Async.block do Server.serve (← resolve a) s)
  match listening with
  | .error words => return .error ["Failed to bind " ++ bind, words]
  | .ok server =>
    let interrupted ← (← Signal.Waiter.mk .sigint false).wait
    let _ ← interrupted.block
    server.shutdownAndWait.block
    return .ok ()

end Sandboxes.World
