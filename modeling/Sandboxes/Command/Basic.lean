import Sandboxes.Control.Operation

/-!
# Commands

What the program can be told to do.
-/

namespace Sandboxes

/-- The sandbox that a command is about. -/
structure Target where
  id : String
  variant : Option Variant
  deriving DecidableEq, Repr

open Control

/-- What the program can be told to do. -/
inductive Command
  /-- Serves the web interface. -/
  | serve (bind : Option String)
  /-- Checks the health of a variant. -/
  | health (variant : Option Variant)
  /-- Makes a sandbox. -/
  | create (variant : Option Variant)
  /-- Shows the addresses of a sandbox. -/
  | status (target : Target)
  /-- Shows the browser of a sandbox, or no more than its websocket. -/
  | browser (target : Target) (websocketOnly : Bool)
  /-- Destroys a sandbox. -/
  | destroy (target : Target)
  /-- Shows the comparison of the variants, or its document. -/
  | compare (document : Bool)
  /-- Does an operation inside a sandbox. -/
  | perform (target : Target) (operation : Operation)
  /-- Writes to a file what the input holds. -/
  | pour (target : Target) (request : FileWrite)
  /-- Sends a file of this side to a sandbox. -/
  | upload (target : Target) (file path : String) (name : Option String)
  /-- Fetches a file, to the output or to a file of this side. -/
  | download (target : Target) (path : String) (file : Option String)
  deriving DecidableEq, Repr

end Sandboxes
