import Sandboxes.Command.Basic
import Sandboxes.Net.SocketAddress
import Sandboxes.Terminal.Page
import Sandboxes.Terminal.Report
import Sandboxes.Text.FileName

/-!
# Running commands

What each command does. A command that fails tells why in several messages, the outermost first; what
it wrote before stays written.
-/

namespace Sandboxes.Command

open Control Terminal

/-- A program that may fail with messages, the outermost first. -/
abbrev Attempt := ExceptT (List String) Program

/-- What is left to do when a command has been run. -/
inductive Sequel
  | nothing
  /-- The web interface is to be served at an address, which was given as `bind`. -/
  | listen (bind : String) (address : Net.SocketAddress)
  deriving DecidableEq, Repr

namespace Attempt

variable {α : Type}

/-- A program whose failure is told behind what was attempted. -/
def within (attempt : String) (p : Program (Except Failure α)) : Attempt α :=
  ExceptT.mk do return (← p).mapError fun failure => [attempt, failure.message]

/-- The same for a failure in several messages. -/
def among (attempt : String) (p : Program (Except (List String) α)) : Attempt α :=
  ExceptT.mk do return (← p).mapError (attempt :: ·)

/-- The same for a failure in words of the world outside. -/
def outside (attempt : String) (p : Program (Except String α)) : Attempt α :=
  ExceptT.mk do return (← p).mapError ([attempt, ·])

/-- A program that does not fail. -/
def sure (p : Program α) : Attempt α :=
  ExceptT.lift p

end Attempt

open Attempt

/-! ### Sandboxes -/

/-- The sandbox that a command is about. -/
def attach (s : Service) (t : Target) : Attempt Handle :=
  within ("Failed to get sandbox " ++ t.id) (s.get t.id t.variant)

/-- Waits until a new sandbox is ready, and destroys it if that fails. -/
def readyOrDestroyed (h : Handle) : Program (Except Failure Unit) := do
  match ← h.ensureReady with
  | .ok _ => return .ok ()
  | .error failure =>
    let _ ← h.destroy
    return .error failure

/-- The news of a sandbox that something was done to. -/
def news (screen : Screen) (done id : String) : String :=
  "\n" ++ screen.ink .green "✓" ++ " " ++ done ++ " " ++ screen.ink .cyan id ++ "\n"

/-- Makes a sandbox. -/
def runCreate (screen : Screen) (s : Service) (v : Option Variant) : Attempt Unit := do
  let handle ← within "Failed to create sandbox" (s.create v)
  within ("Sandbox " ++ handle.id ++ " did not become ready") (readyOrDestroyed handle)
  sure (printText (screen.sandbox handle))
  sure (printText (news screen "Created" handle.id))

/-- Destroys a sandbox. -/
def runDestroy (screen : Screen) (s : Service) (t : Target) : Attempt Unit := do
  let handle ← attach s t
  if ← sure handle.destroy then
    sure (printText (news screen ("Destroyed " ++ handle.variant.name ++ " sandbox") t.id))
  else throw ["Failed to destroy sandbox " ++ t.id]

/-- Checks the health of a variant. -/
def runHealth (screen : Screen) (s : Service) (v : Option Variant) : Attempt Unit := do
  let chosen := s.resolve v
  let health ← sure (s.checkHealth (some chosen))
  sure (printText (screen.health chosen health))
  if health.isHealthy then return ()
  else throw [chosen.name ++ " sandbox health check failed"]

/-- Shows the browser of a sandbox. -/
def runBrowser (screen : Screen) (s : Service) (t : Target) (websocketOnly : Bool) :
    Attempt Unit := do
  let handle ← attach s t
  let attempt := "Failed to query browser of sandbox " ++ handle.id
  if websocketOnly then
    let address ← among attempt handle.browser.websocket
    sure (printText (address ++ "\n"))
  else
    let version ← among attempt handle.browser.version
    sure (printText (screen.browser handle.browser version))

/-- Shows the comparison of the variants. -/
def runCompare (screen : Screen) (s : Service) (document : Bool) : Attempt Unit :=
  let j := comparison s.settings.defaultVariant s.settings.aio.enabled
  sure (printText (if document then j.pretty ++ "\n" else screen.comparison j))

/-! ### Operations -/

/-- Does an operation and reports its result. -/
def performOn (h : Handle) (o : Operation) : Attempt Unit := do
  ExceptT.mk (report (← sure (h.perform o)))

/-- The whole input as a text. -/
def inputText : Attempt String := do
  let attempt := "Failed to read content from stdin"
  let bytes ← outside attempt (Program.query .input)
  match Text.decode bytes with
  | .ok text => return text
  | .error fault => throw [attempt, fault.message]

/-- Sends a file to a sandbox, by the name it has here unless another one is given. -/
def runUpload (s : Service) (t : Target) (file path : String) (name : Option String) :
    Attempt Unit := do
  let handle ← attach s t
  let data ← outside ("Failed to read " ++ file) (Program.query (.load file))
  performOn handle (.fileUpload data path (name.or (Text.fileName? file)))

/-- Writes data to a file here, and tells how much it was. -/
def writeFile (file : String) (data : Bytes) : Attempt Unit := do
  outside ("Failed to create " ++ file) (Program.query (.create file))
  outside ("Failed to write " ++ file) (Program.query (.store file data))
  sure (complainText s!"Downloaded {data.length} bytes to {file}\n")

/-- Fetches a file. -/
def runDownload (s : Service) (t : Target) (path : String) (file : Option String) :
    Attempt Unit := do
  let handle ← attach s t
  let data ← ExceptT.mk do
    return (← handle.download path).mapError fun failure => [failure.message]
  match file with
  | some file => writeFile file data
  | none => if data.isEmpty then return () else sure (Program.query (.print data))

/-! ### All commands -/

/-- The address to serve at. -/
def serveAt (bind : String) : Attempt Sequel :=
  match Net.SocketAddress.ofText bind with
  | .ok address => return .listen bind address
  | .error fault => throw ["Failed to bind " ++ bind, fault.message]

/-- Runs a command. -/
def attempt (screen : Screen) (s : Service) : Command → Attempt Sequel
  | serve bind => serveAt (bind.getD s.settings.bind)
  | health v => do runHealth screen s v; return .nothing
  | create v => do runCreate screen s v; return .nothing
  | status t => do
    sure (printText (screen.sandbox (← attach s t)))
    return .nothing
  | browser t websocketOnly => do runBrowser screen s t websocketOnly; return .nothing
  | destroy t => do runDestroy screen s t; return .nothing
  | compare document => do runCompare screen s document; return .nothing
  | perform t o => do
    performOn (← attach s t) o
    return .nothing
  | pour t request => do
    let handle ← attach s t
    performOn handle (.fileWrite { request with content := ← inputText })
    return .nothing
  | upload t file path name => do runUpload s t file path name; return .nothing
  | download t path file => do runDownload s t path file; return .nothing

/-- Runs a command under settings that were loaded. -/
def run (screen : Screen) (s : Service) (c : Command) : Program (Except (List String) Sequel) :=
  (c.attempt screen s).run

end Sandboxes.Command
