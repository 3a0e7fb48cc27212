import Std.Async.DNS
import Std.Async.TCP
import Std.Async.Timer
import Sandboxes.Docker.Request
import Sandboxes.Http.Message
import Sandboxes.Http.Reception
import Sandboxes.Net.SocketAddress

/-!
# Exchanges

Sending a message to a server over the network and receiving all that it sends back, within a time.
There are no encrypted connections: a server that asks for one counts as out of reach.
-/

namespace Sandboxes.World

open Std.Async

/-- The address of a port. -/
def socketAddress (ip : Std.Net.IPAddr) (port : UInt16) : Std.Net.SocketAddress :=
  match ip with
  | .v4 addr => .v4 { addr, port }
  | .v6 addr => .v6 { addr, port }

/-- A host without the brackets that stand around an address in them. -/
def bareHost (host : String) : String :=
  String.ofList (host.toList.filter fun c => c ≠ '[' ∧ c ≠ ']')

/-- Connects to the first address that takes the connection. -/
def connectAny (port : UInt16) : List Std.Net.IPAddr → Async TCP.Socket.Client
  | [] => throw (IO.userError "no address for the host")
  | ip :: rest => do
    let socket ← TCP.Socket.Client.mk
    try
      socket.connect (socketAddress ip port)
      return socket
    catch fault => if rest.isEmpty then throw fault else connectAny port rest

/-- Connects to a server. There is no connection where that fails or takes too long. -/
def connect (p : Net.SocketAddress) (timer : Sleep) : Async (Option TCP.Socket.Client) := do
  let opened : Async (Option TCP.Socket.Client) := do
    let addresses ← DNS.getAddrInfo (bareHost p.host) ""
    return some (← connectAny p.port addresses.toList)
  let late : Async (Option TCP.Socket.Client) := do
    timer.wait
    return none
  try Async.race opened late catch _ => return none

/-- What a server sends until it closes the connection or the time is over. -/
partial def receive (socket : TCP.Socket.Client) (timer : Sleep) (soFar : ByteArray) :
    Async ByteArray := do
  let more ← try
      Selectable.one #[.case (socket.recvSelector 65536) pure,
        .case timer.selector fun _ => pure none]
    catch _ => pure none
  match more with
  | some bytes => receive socket timer (soFar ++ bytes)
  | none => return soFar

/-- What a server sends back for a message; nothing if it is out of reach. -/
def exchange (p : Net.SocketAddress) (limit : Duration) (message : Bytes) : Async (Option Bytes) := do
  let timer ← Sleep.mk (.ofNat (min limit.millis (2 ^ 31)))
  match ← connect p timer with
  | none => return none
  | some socket =>
    try
      socket.send ⟨message.toArray⟩
      return some (← receive socket timer .empty).toList
    catch _ => return some []

/-- A line that sets off the parts of a form. -/
def drawBoundary : IO String := do
  return s!"part-{← IO.rand 0 (2 ^ 62)}-{← IO.rand 0 (2 ^ 62)}"

/-- Sends a request to a web server. -/
def fetch (r : Http.Request) : IO Http.Outcome := do
  if r.url.scheme ≠ "http" then return .refused
  else
    let message := Http.Message.ofRequest (← drawBoundary) r
    let peer : Net.SocketAddress := { host := r.url.host, port := .ofNat (r.url.port.getD 80) }
    match ← (exchange peer r.limit message.bytes).block with
    | some bytes => return .ofBytes bytes
    | none => return .refused

/-- Where the Docker daemon listens, as the value of a variable says. -/
def daemonAddress? (value : String) : Option Net.SocketAddress := do
  let address ← Text.dropFront? "tcp://".toList value.toList
  (Net.SocketAddress.ofText (String.ofList address)).toOption

/-- Where the Docker daemon listens. -/
def daemon? : IO (Option Net.SocketAddress) := do
  return (← IO.getEnv "DOCKER_HOST").bind daemonAddress?

/-- The words for a daemon that cannot be talked to. -/
def noDaemon : String := "DOCKER_HOST names no address such as tcp://localhost:2375"

/-- Sends a request to the Docker daemon. -/
def askDaemon (r : Docker.Request) : IO (Except String Docker.Answer) := do
  match ← daemon? with
  | none => return .error noDaemon
  | some peer =>
    let message := Http.Message.ofDocker s!"{peer.host}:{peer.port}" r
    match ← (exchange peer (.ofSeconds 120) message.bytes).block with
    | none => return .error "error trying to connect"
    | some bytes =>
      match Http.Outcome.ofBytes bytes with
      | .answered status (some body) => return .ok { status, body }
      | _ => return .error "connection closed before the answer was complete"

end Sandboxes.World
