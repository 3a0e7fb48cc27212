import Sandboxes.Program
import Sandboxes.Settings.Document
import Sandboxes.Settings.Environment
import Sandboxes.Text.FileName
import Sandboxes.Toml.Reader

/-!
# Loading settings

Settings come from a file: the one that is named, or else one in the working directory, or else the
user's own. Without any of them the usual settings stand. Environment variables come last. A failure
is told in several messages, the outermost first.
-/

namespace Sandboxes.Settings

/-- The file in the working directory. -/
def localFile : String := "sandbox-router.toml"

/-- The user's own file, below the directory of settings. -/
def userFile (home : String) : String :=
  home ++ "/sandbox-router/config.toml"

/-- Stands for the reason why a text is no settings file. -/
def badDocument : String := "<toml>"

/-- The file to use when none is named. -/
def discover : Program (Option String) := do
  if ← Program.query (.hasFile localFile) then return some localFile
  else
    match ← Program.query .settingsHome with
    | none => return none
    | some home =>
      if ← Program.query (.hasFile (userFile home)) then return some (userFile home)
      else return none

/-- The settings that the bytes of a file spell. -/
def ofBytes (path : String) (content : Bytes) : Except (List String) Settings :=
  match Text.decode? content with
  | none =>
    .error ["Failed to read config file: " ++ path, "stream did not contain valid UTF-8"]
  | some text =>
    match (Toml.read? text).bind ofToml? with
    | some s => .ok s
    | none => .error ["Failed to parse config file: " ++ path, badDocument]

/-- The settings of a file. -/
def ofFile (path : String) : Program (Except (List String) Settings) := do
  match ← Program.query (.load path) with
  | .ok content => return ofBytes path content
  | .error reason => return .error ["Failed to read config file: " ++ path, reason]

/-- The settings of the file that is named or found, with that file. -/
def ofAnyFile (path : Option String) :
    Program (Except (List String) (Settings × Option String)) := do
  let source ← match path with
    | some path => pure (some path)
    | none => discover
  match source with
  | some path => return (← ofFile path).map (·, some path)
  | none => return .ok (usual, none)

/-- The variables that override settings. -/
def environment : List Variable → Program Environment
  | [] => return fun _ => none
  | v :: vs => do
    let value ← Program.query (.environment v.name)
    let rest ← environment vs
    return fun name => if name = v.name then value else rest name

/-- What is wrong with the way in which log lines are to be written. -/
def Logging.fault? (l : Logging) : Option String :=
  match l.file with
  | none => none
  | some path =>
    if (Text.fileName? path).isSome then none else some ("Invalid log file path: " ++ path)

/-- The settings if nothing is wrong with them. -/
def checked (s : Settings) : Except (List String) Settings :=
  match s.fault?.or s.logging.fault? with
  | some fault => .error [fault]
  | none => .ok s

/-- Loads the settings. -/
def load (path : Option String) : Program (Except (List String) Settings) := do
  match ← ofAnyFile path with
  | .error words => return .error words
  | .ok (s, _) =>
    match Overridden.override (← environment Variable.all) ⟨s, []⟩ with
    | (o, none) => return o.settings.checked
    | (_, some fault) => return .error fault.messages

end Sandboxes.Settings
