import Sandboxes.Duration
import Sandboxes.Text.Blank

/-!
# Control interfaces

Where the control interface of a sandbox is reached.
-/

namespace Sandboxes.Control

/-- The web address of a control interface, and the limit of requests to it. -/
structure Interface where
  base : String
  limit : Duration
  deriving DecidableEq, Repr

/-- The interface at an address, of which slashes at the end are dropped. -/
def Interface.ofAddress (address : String) (limit : Duration) : Interface where
  base := Text.dropTrailing '/' address
  limit := limit

end Sandboxes.Control
