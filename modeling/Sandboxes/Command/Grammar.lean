import Sandboxes.Command.Arguments
import Sandboxes.Command.Basic
import Sandboxes.Command.Word

/-!
# The grammar of the commands

The words, flags and operands of every command.
-/

namespace Sandboxes.Command

open Control

/-! ### Flags -/

/-- Asks for more log lines. -/
def verboseFlag : Flag := ⟨"verbose", some 'v', .switch⟩

/-- Names the file of the settings. -/
def configFlag : Flag := ⟨"config", some 'c', .value .path⟩

/-- The flags that every command knows. -/
def sharedFlags : List Flag := [verboseFlag, configFlag]

/-- Names a variant. -/
def variantFlag : Flag := ⟨"type", some 't', .value .variant⟩

/-- Names a shell session. -/
def sessionFlag : Flag := ⟨"session", some 's', .value .text⟩

/-- Switches without a letter. -/
def switchFlag (name : String) : Flag := ⟨name, none, .switch⟩

/-- Asks for higher rights. -/
def sudoFlag : Flag := switchFlag "sudo"

/-! ### Forms -/

/-- Flags and operands, all of which must be given. -/
def formOf (flags : List Flag) (operands : List Kind) : Form where
  flags := flags
  operands := operands
  required := operands.length
  words := false

/-- The form of a command about a sandbox, with further operands. -/
def targetForm (flags : List Flag) (operands : List Kind) : Form :=
  formOf (variantFlag :: flags) (.text :: operands)

/-! ### What was given -/

namespace Given

/-- The variant that was named, if one was. -/
def chosen (g : Given) : Option Variant :=
  g.variant? variantFlag.name

/-- The sandbox of that name, and of the variant that was named. -/
def target (g : Given) (id : String) : Target where
  id := id
  variant := g.chosen

/-- The shell session. -/
def session (g : Given) : String :=
  (g.value? sessionFlag.name).getD "default"

/-- Whether higher rights were asked for. -/
def asRoot (g : Given) : Bool :=
  g.has sudoFlag.name

/-- What to write to a file. -/
def fileWrite (g : Given) (file content : String) : FileWrite where
  file := file
  content := content
  append := g.has "append"
  leadingNewline := g.has "leading-newline"
  trailingNewline := g.has "trailing-newline"
  «sudo» := g.asRoot

/-- Which part of a file to read. -/
def fileRead (g : Given) (file : String) : FileRead where
  file := file
  startLine := g.count? "start-line"
  endLine := g.count? "end-line"
  «sudo» := g.asRoot

end Given

/-! ### Commands -/

/-- A command that has no operands. -/
def bare (flags : List Flag) (build : Given → Command) : Grammar Command :=
  .command (formOf flags []) fun g => some (build g)

/-- A command about a sandbox. -/
def onTarget (flags : List Flag) (build : Given → Target → Command) : Grammar Command :=
  .command (targetForm flags []) fun g =>
    match g.operands with
    | [id] => some (build g (g.target id))
    | _ => none

/-- A command about a path within a sandbox. -/
def onPath (flags : List Flag) (build : Given → Target → String → Command) : Grammar Command :=
  .command (targetForm flags [.text]) fun g =>
    match g.operands with
    | [id, path] => some (build g (g.target id) path)
    | _ => none

/-- Runs a command inside a sandbox. -/
def exec : Grammar Command :=
  .command
    { targetForm [sessionFlag, ⟨"dir", some 'd', .value .text⟩] [] with words := true }
    fun g =>
      match g.operands with
      | id :: words =>
        let dir := (g.value? "dir").getD "/home/ubuntu"
        some (.perform (g.target id) (.exec g.session dir (Word.join words)))
      | [] => none

/-- What is done with a shell session. -/
def shell : Grammar Command :=
  .group [
    ("view", onTarget [sessionFlag, switchFlag "console"] fun g target =>
      .perform target (.view g.session (g.has "console"))),
    ("wait", onTarget [sessionFlag, ⟨"seconds", none, .value .count⟩] fun g target =>
      .perform target (.wait g.session (g.count? "seconds"))),
    ("write", onPath [sessionFlag, switchFlag "no-enter"] fun g target input =>
      .perform target (.writeInput g.session input (!g.has "no-enter"))),
    ("kill", onTarget [sessionFlag] fun g target => .perform target (.kill g.session))]

/-- Writes a file: content that is given, or the input. -/
def write : Grammar Command :=
  let switches := ["append", "leading-newline", "trailing-newline"].map switchFlag
  .command
    { targetForm (switches ++ [sudoFlag]) [.text, .text] with required := 2 }
    fun g =>
      match g.operands with
      | [id, file] => some (.pour (g.target id) (g.fileWrite file ""))
      | [id, file, content] =>
        some (.perform (g.target id) (.fileWrite (g.fileWrite file content)))
      | _ => none

/-- Replaces text in a file. -/
def replace : Grammar Command :=
  .command (targetForm [sudoFlag] [.text, .text, .text]) fun g =>
    match g.operands with
    | [id, file, old, new] => some (.perform (g.target id) (.fileReplace file old new g.asRoot))
    | _ => none

/-- Searches a file. -/
def search : Grammar Command :=
  .command (targetForm [sudoFlag] [.text, .text]) fun g =>
    match g.operands with
    | [id, file, regex] => some (.perform (g.target id) (.fileSearch file regex g.asRoot))
    | _ => none

/-- Finds files. -/
def find : Grammar Command :=
  .command (targetForm [] [.text, .text]) fun g =>
    match g.operands with
    | [id, path, glob] => some (.perform (g.target id) (.fileFind path glob))
    | _ => none

/-- Sends a file to a sandbox. -/
def uploadFile : Grammar Command :=
  .command (targetForm [⟨"name", none, .value .text⟩] [.path, .text]) fun g =>
    match g.operands with
    | [id, file, path] => some (.upload (g.target id) file path (g.value? "name"))
    | _ => none

/-- What is done with files. -/
def file : Grammar Command :=
  .group [
    ("read", onPath
      [⟨"start-line", none, .value .count⟩, ⟨"end-line", none, .value .count⟩, sudoFlag]
      fun g target path => .perform target (.fileRead (g.fileRead path))),
    ("write", write),
    ("exists", onPath [] fun _ target path => .perform target (.fileExists path)),
    ("delete", onPath [] fun _ target path => .perform target (.fileDelete path)),
    ("list", onPath [] fun _ target path => .perform target (.fileList path)),
    ("replace", replace),
    ("search", search),
    ("find", find),
    ("upload", uploadFile),
    ("download", onPath [⟨"output", some 'o', .value .path⟩] fun g target path =>
      .download target path (g.value? "output"))]

/-- All commands. -/
def grammar : Grammar Command :=
  .group [
    ("serve", bare [⟨"bind", some 'b', .value .text⟩] fun g => .serve (g.value? "bind")),
    ("health", bare [variantFlag] fun g => .health g.chosen),
    ("create", bare [variantFlag] fun g => .create g.chosen),
    ("status", onTarget [] fun _ target => .status target),
    ("exec", exec),
    ("shell", shell),
    ("file", file),
    ("browser", onTarget [switchFlag "ws"] fun g target => .browser target (g.has "ws")),
    ("destroy", onTarget [] fun _ target => .destroy target),
    ("compare", bare [switchFlag "json"] fun g => .compare (g.has "json"))]

/-! ### Invocations -/

/-- A command, with the file of the settings if one is named. -/
structure Invocation where
  config : Option String
  command : Command
  deriving DecidableEq, Repr

/-- The variable that names the file of the settings where no flag does. -/
def configVariable : String := "SANDBOX_ROUTER_CONFIG"

/-- Reads the arguments, with the value of that variable. -/
def Invocation.read (config : Option String) (args : List String) : Except Ending Invocation := do
  let reading ← (Reading.start grammar).run sharedFlags none args
  let config ← reading.shared? configFlag.name .path config
  return { config, command := ← reading.result }

/-- The program's name. -/
def programName : String := "sandbox-router"

/-- The program's name with its version, within the commands of a path. -/
def versionText (path : List String) : String :=
  Text.joined "-" (programName :: path) ++ " 0.1.0\n"

end Sandboxes.Command
