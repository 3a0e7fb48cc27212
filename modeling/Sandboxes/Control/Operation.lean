import Sandboxes.Control.Route
import Sandboxes.Http
import Sandboxes.Variant

/-!
# Operations

What can be done inside a sandbox: fifteen tasks, each with its routes on the control interface of
either variant, and operations, which are tasks with their arguments.
-/

namespace Sandboxes.Control

/-! ### Tasks -/

/-- A kind of operation. -/
inductive Task
  | exec
  | view
  | wait
  | writeInput
  | kill
  | fileWrite
  | fileRead
  | fileExists
  | fileDelete
  | fileList
  | fileReplace
  | fileSearch
  | fileFind
  | fileUpload
  | fileDownload
  deriving DecidableEq, Repr

namespace Task

/-- The name of a task in failures. -/
def label : Task → String
  | exec => "Command execution"
  | view => "Shell view"
  | wait => "Process wait"
  | writeInput => "Process write"
  | kill => "Process kill"
  | fileWrite => "File write"
  | fileRead => "File read"
  | fileExists => "File exists check"
  | fileDelete => "File delete"
  | fileList => "File list"
  | fileReplace => "File replace"
  | fileSearch => "File search"
  | fileFind => "File find"
  | fileUpload => "File upload"
  | fileDownload => "File download"

/-- The end of the path of a task's routes. -/
def path : Task → String
  | exec => "/shell/exec"
  | view => "/shell/view"
  | wait => "/shell/wait"
  | writeInput => "/shell/write"
  | kill => "/shell/kill"
  | fileWrite => "/file/write"
  | fileRead => "/file/read"
  | fileExists => "/file/exists"
  | fileDelete => "/file/delete"
  | fileList => "/file/list"
  | fileReplace => "/file/replace"
  | fileSearch => "/file/search"
  | fileFind => "/file/find"
  | fileUpload => "/file/upload"
  | fileDownload => "/file/download"

/-- Whether a task may be sent twice. Commands, input, replacements and uploads may not. -/
def replay : Task → Replay
  | exec | writeInput | fileReplace | fileUpload => .unsent
  | _ => .always

/-- The route that both variants have. -/
def primary (t : Task) : Route where
  path := "/api/v1" ++ t.path
  shape := .envelope

/-- The route on the native interface. -/
def native : Task → Route
  | exec => ⟨"/v1/sandbox/shell", .nativeShell⟩
  | t => ⟨"/v1" ++ t.path, .envelope⟩

/-- The routes of a task. Only the all-in-one variant has a native interface. -/
def plan (t : Task) (v : Variant) : Plan where
  label := t.label
  replay := t.replay
  primary := t.primary
  fallback := match v with
    | .legacy => none
    | .aio => some t.native

end Task

/-! ### Operations -/

/-- What to write to a file. -/
structure FileWrite where
  file : String
  content : String
  append : Bool
  leadingNewline : Bool
  trailingNewline : Bool
  «sudo» : Bool
  deriving DecidableEq, Repr

/-- Which part of a file to read. -/
structure FileRead where
  file : String
  startLine : Option UInt64
  endLine : Option UInt64
  «sudo» : Bool
  deriving DecidableEq, Repr

/-- A task with its arguments, of those that are answered by an envelope. -/
inductive Operation
  | exec (session dir command : String)
  | view (session : String) (console : Bool)
  | wait (session : String) (seconds : Option UInt64)
  | writeInput (session input : String) (enter : Bool)
  | kill (session : String)
  | fileWrite (request : FileWrite)
  | fileRead (request : FileRead)
  | fileExists (path : String)
  | fileDelete (path : String)
  | fileList (path : String)
  | fileReplace (file old new : String) (asRoot : Bool)
  | fileSearch (file regex : String) (asRoot : Bool)
  | fileFind (path glob : String)
  | fileUpload (data : Bytes) (path : String) (filename : Option String)
  deriving DecidableEq, Repr

namespace Operation

/-- The kind of an operation. -/
def task : Operation → Task
  | exec .. => .exec
  | view .. => .view
  | wait .. => .wait
  | writeInput .. => .writeInput
  | kill .. => .kill
  | fileWrite .. => .fileWrite
  | fileRead .. => .fileRead
  | fileExists .. => .fileExists
  | fileDelete .. => .fileDelete
  | fileList .. => .fileList
  | fileReplace .. => .fileReplace
  | fileSearch .. => .fileSearch
  | fileFind .. => .fileFind
  | fileUpload .. => .fileUpload

/-- Whether the operation may be sent twice. Appending to a file may not. -/
def replay : Operation → Replay
  | fileWrite request => if request.append then .unsent else .always
  | o => o.task.replay

/-- The routes of an operation. -/
def plan (o : Operation) (v : Variant) : Plan :=
  { o.task.plan v with replay := o.replay }

/-- A number that may be absent. -/
def number (n : Option UInt64) : Json :=
  Json.ofOption (Json.ofNat ·.toNat) n

/-- The parts of an upload. -/
def uploadParts (data : Bytes) (path filename : String) : List Http.Part :=
  [⟨"file", some filename, some "application/octet-stream", data⟩,
    ⟨"path", none, none, Text.encode path⟩]

/-- What an operation carries, before a route puts it into its own form. -/
def content : Operation → Http.Content
  | exec session dir command =>
    .json (.obj [("command", .str command), ("exec_dir", .str dir), ("id", .str session)])
  | view session console => .json (.obj [("console", .bool console), ("id", .str session)])
  | wait session seconds => .json (.obj [("id", .str session), ("seconds", number seconds)])
  | writeInput session input enter =>
    .json (.obj [("id", .str session), ("input", .str input), ("press_enter", .bool enter)])
  | kill session => .json (.obj [("id", .str session)])
  | fileWrite r =>
    .json (.obj [("append", .bool r.append), ("content", .str r.content), ("file", .str r.file),
      ("leading_newline", .bool r.leadingNewline), ("sudo", .bool r.«sudo»),
      ("trailing_newline", .bool r.trailingNewline)])
  | fileRead r =>
    .json (.obj [("end_line", number r.endLine), ("file", .str r.file),
      ("start_line", number r.startLine), ("sudo", .bool r.«sudo»)])
  | fileExists path | fileDelete path | fileList path => .json (.obj [("path", .str path)])
  | fileReplace file old new asRoot =>
    .json (.obj [("file", .str file), ("new_str", .str new), ("old_str", .str old),
      ("sudo", .bool asRoot)])
  | fileSearch file regex asRoot =>
    .json (.obj [("file", .str file), ("regex", .str regex), ("sudo", .bool asRoot)])
  | fileFind path glob => .json (.obj [("glob", .str glob), ("path", .str path)])
  | fileUpload data path filename => .form (uploadParts data path (filename.getD "upload"))

end Operation

end Sandboxes.Control
