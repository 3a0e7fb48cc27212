import Sandboxes.Program
import Sandboxes.World.Exchange

/-!
# Replies of the machine

Running programs on the machine at hand, which replies to their questions.
-/

namespace Sandboxes.World

/-- The words for a failure of the machine. -/
def reason : IO.Error → String
  | .noFileOrDirectory _ _ _ => "No such file or directory (os error 2)"
  | .permissionDenied _ _ _ => "Permission denied (os error 13)"
  | .inappropriateType _ _ _ => "Is a directory (os error 21)"
  | fault => toString fault

/-- What an action gives, or the words for its failure. -/
def told {α : Type} (action : IO α) : IO (Except String α) := do
  try return .ok (← action) catch fault => return .error (reason fault)

/-- What comes from a stream until it ends. -/
partial def readAll (stream : IO.FS.Stream) (soFar : ByteArray) : IO ByteArray := do
  let more ← stream.read 65536
  if more.isEmpty then return soFar else readAll stream (soFar ++ more)

/-- Writes to a stream. -/
def write (stream : IO.FS.Stream) (content : Bytes) : IO Unit := do
  stream.write ⟨content.toArray⟩
  stream.flush

/-- Whether there is a file. -/
def isThere (path : String) : IO Bool := do
  try
    let _ ← IO.FS.realPath path
    return true
  catch _ => return false

/-- The user's directory of settings. -/
def settingsHome : IO (Option String) := do
  let named ← IO.getEnv "XDG_CONFIG_HOME"
  match named.filter (·.startsWith "/") with
  | some path => return some path
  | none => return (← IO.getEnv "HOME").map (· ++ "/.config")

/-- The first address of a host. -/
def lookUp (host : String) : IO (Option Ipv4) := do
  try
    let found ← (Std.Async.DNS.getAddrInfo host "" (some .ipv4)).block
    return found.toList.findSome? fun
      | .v4 ip => Ipv4.ofText? (toString ip)
      | .v6 _ => none
  catch _ => return none

/-- The words for a container runtime that is not Docker, of which this machine has none. -/
def noRuntime : Failure := .provision "There is no other container runtime"

/-- The machine's reply to a question. -/
def reply : (q : Query) → IO q.Reply
  | .fetch request => fetch request
  | .findDocker => do return if (← daemon?).isSome then .ok () else .error noDaemon
  | .docker request => askDaemon request
  | .launch _ | .attach _ | .remove _ => return .error noRuntime
  | .lookUp host => lookUp host
  | .pause time => IO.sleep (.ofNat time.millis)
  | .clock => IO.monoNanosNow
  | .draw => do return .ofNat (← IO.rand 0 (2 ^ 32 - 1))
  | .environment name => IO.getEnv name
  | .settingsHome => settingsHome
  | .hasFile path => isThere path
  | .load path => told do return (← IO.FS.readBinFile path).toList
  | .create path => told (IO.FS.writeBinFile path .empty)
  | .store path content => told (IO.FS.writeBinFile path ⟨content.toArray⟩)
  | .input => told do return (← readAll (← IO.getStdin) .empty).toList
  | .print content => do write (← IO.getStdout) content
  | .complain content => do write (← IO.getStderr) content

/-- Runs a program with a memory that others may use meanwhile. -/
def execute {α : Type} (memory : IO.Ref Memory) : Program α → IO α
  | .done a => return a
  | .ask q next => do execute memory (next (← reply q))
  | .remember s next => do execute memory (next (← memory.modifyGet s.apply))

end Sandboxes.World
