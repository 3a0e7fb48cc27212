import Sandboxes.Json.Basic
import Sandboxes.Net.Url

/-!
# Requests to the Docker daemon

What the daemon is asked and what it answers. Paths are kept as the daemon reads them: without the
version of its interface, and with percent bytes resolved.
-/

namespace Sandboxes.Docker

/-- A request to the daemon. -/
structure Request where
  method : String
  path : String
  query : List (String × String)
  body : Option Json
  deriving Repr, BEq

/-- An answer of the daemon. -/
structure Answer where
  status : Nat
  body : Bytes
  deriving DecidableEq, Repr

/-- The path below which the daemon's interface of one version lies. -/
def root : String := "/v1.47"

/-- The path that the daemon reads for one written with names in it. Names are not escaped, so that
one may end the path early or climb out of it. -/
def pathRead (written : String) : String :=
  let cs := Net.Url.cleaned (root ++ written)
  let (path, _) := Net.Url.spanUntil (fun c => c = '?' || c = '#') cs
  let normal := Net.Url.normalPath (· = '/') (path.drop 1)
  let below := (Text.dropFront? root.toList normal.toList).getD normal.toList
  Text.decodeLenient (Net.percentDecode (Text.encode (String.ofList below)))

/-- A request without a body. -/
def Request.plain (method written : String) (query : List (String × String)) : Request where
  method := method
  path := pathRead written
  query := query
  body := none

end Sandboxes.Docker
