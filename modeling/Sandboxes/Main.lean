import Sandboxes.Command.Help
import Sandboxes.Settings.Loading
import Sandboxes.World.Listener

/-!
# The program

Reads the arguments, loads the settings, runs the command and, if it asks for that, serves the web
interface. The program ends with 0, with 1 after a failure, or with 2 if the arguments are of no use.
-/

namespace Sandboxes

open Terminal

/-- Whether the output shows colours: it is a terminal, and no variable speaks against them. -/
def screenHere : IO Screen := do
  let refused := (← IO.getEnv "NO_COLOR").any (· ≠ "")
  return { coloured := (← (← IO.getStdout).isTty) && !refused }

/-- Does what was asked for, under the settings that it names. -/
def perform (i : Command.Invocation) : IO (Except (List String) Unit) := do
  let nothing ← IO.mkRef (Memory.empty 1 1)
  match ← World.execute nothing (Settings.load i.config) with
  | .error words => return .error words
  | .ok settings =>
    let service := Service.ofSettings settings
    let memory ← IO.mkRef service.memory
    match ← World.execute memory (i.command.run (← screenHere) service) with
    | .error words => return .error words
    | .ok .nothing => return .ok ()
    | .ok (.listen bind address) => World.serve { service, memory } bind address

/-- Runs the program with its arguments. -/
def run (args : List String) : IO UInt32 := do
  match Command.Invocation.read (← IO.getEnv Command.configVariable) args with
  | .error (.help path) =>
    IO.print (Command.helpText path)
    return 0
  | .error (.version path) =>
    IO.print (Command.versionText path)
    return 0
  | .error .misuse =>
    IO.eprint (Command.helpText [])
    return 2
  | .ok invocation =>
    match ← perform invocation with
    | .ok _ => return 0
    | .error words =>
      IO.eprint (faultText words)
      return 1

end Sandboxes

/-- The program. -/
def main (args : List String) : IO UInt32 :=
  Sandboxes.run args
