import Sandboxes.Docker.Request
import Sandboxes.Http
import Sandboxes.Json.Printer

/-!
# Messages

The bytes in which requests go to a server: a line with the method and the target, fields, an empty
line, and the body. The connection is closed after the answer.
-/

namespace Sandboxes.Http

/-- A request as it goes to a server. -/
structure Message where
  method : String
  target : String
  /-- Host and port of the server. -/
  host : String
  mediaType : Option String
  body : Bytes
  deriving DecidableEq, Repr

/-! ### Forms -/

/-- A text between the quotes of a field. -/
def quoted (text : String) : String :=
  let escape (c : Char) : List Char :=
    if c = '"' ∨ c.toNat < 0x20 then
      '%' :: (Text.hexPadded 2 c.toNat).map Char.toUpper
    else [c]
  "\"" ++ String.ofList (text.toList.flatMap escape) ++ "\""

/-- A part of a form, behind the line that sets it off. -/
def Part.bytes (boundary : String) (p : Part) : Bytes :=
  let filename := match p.filename with
    | some name => "; filename=" ++ quoted name
    | none => ""
  let mediaType := match p.mediaType with
    | some type => "Content-Type: " ++ type ++ "\r\n"
    | none => ""
  Text.encode ("--" ++ boundary ++ "\r\nContent-Disposition: form-data; name=" ++ quoted p.name ++
    filename ++ "\r\n" ++ mediaType ++ "\r\n") ++ p.data ++ Text.encode "\r\n"

/-- The body of a form. -/
def formBody (boundary : String) (parts : List Part) : Bytes :=
  parts.flatMap (Part.bytes boundary) ++ Text.encode ("--" ++ boundary ++ "--\r\n")

/-! ### Messages of requests -/

namespace Message

/-- Media type and body of content. -/
def ofContent (boundary : String) : Content → Option String × Bytes
  | .nothing => (none, [])
  | .json body => (some "application/json", Text.encode body.compact)
  | .form parts => (some ("multipart/form-data; boundary=" ++ boundary), formBody boundary parts)

/-- The message of a request to a web server. -/
def ofRequest (boundary : String) (r : Request) : Message :=
  let port := match r.url.port with
    | some n => s!":{n}"
    | none => ""
  let query := match r.url.query with
    | some query => "?" ++ query
    | none => ""
  let (mediaType, body) := ofContent boundary r.content
  { method := r.method
    target := r.url.path ++ query
    host := r.url.host ++ port
    mediaType := mediaType
    body := body }

/-- Characters that are escaped in the paths of the Docker daemon's interface. -/
def escapedInName (c : Char) : Bool :=
  !(c.isAlphanum || c ∈ ['/', '-', '.', '_', ':', '@'])

/-- The message of a request to the Docker daemon. -/
def ofDocker (host : String) (r : Docker.Request) : Message :=
  let path := String.ofList (Net.percentEncode escapedInName r.path.toList)
  let fields := r.query.map fun (name, value) => Net.formEncode name ++ "=" ++ Net.formEncode value
  { method := r.method
    target := Docker.root ++ path ++ (if fields.isEmpty then "" else "?") ++ Text.joined "&" fields
    host := host
    mediaType := r.body.map fun _ => "application/json"
    body := (r.body.map fun body => Text.encode body.compact).getD [] }

/-- The bytes of a message. -/
def bytes (m : Message) : Bytes :=
  let mediaType := match m.mediaType with
    | some type => ["Content-Type: " ++ type]
    | none => []
  let head := [m.method ++ " " ++ m.target ++ " HTTP/1.1", "Host: " ++ m.host, "Accept: */*",
    "Connection: close", s!"Content-Length: {m.body.length}"] ++ mediaType
  Text.encode (String.join (head.map (· ++ "\r\n")) ++ "\r\n") ++ m.body

end Message

end Sandboxes.Http
