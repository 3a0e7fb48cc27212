import Sandboxes.Duration
import Sandboxes.Variant

/-!
# Failures

What can go wrong with a sandbox, by cause, and the words for it.
-/

namespace Sandboxes

/-- Why an operation on sandboxes failed. -/
inductive Failure
  /-- The tag names no variant. -/
  | unsupportedTag (tag : String)
  /-- The variant is switched off in the settings. -/
  | disabled (variant : Variant)
  /-- The Docker daemon cannot be reached. -/
  | dockerUnavailable (reason : String)
  /-- A container could not be brought up or removed. -/
  | provision (reason : String)
  /-- There is no container of that name. -/
  | notFound (id : String)
  /-- The sandbox was not ready after that many attempts and seconds between them. -/
  | unready (attempts : Nat) (waited : Nat)
  /-- A file could not be fetched. -/
  | download (reason : String)
  /-- The settings cannot be worked with. -/
  | settings (reason : String)
  deriving DecidableEq, Repr

namespace Failure

/-- The words for a failure. -/
def message : Failure → String
  | unsupportedTag tag => "Unsupported sandbox type: " ++ tag
  | disabled variant => variant.name ++ " sandbox is not enabled in configuration"
  | dockerUnavailable reason => "Docker is not available: " ++ reason
  | provision reason => "Failed to provision sandbox: " ++ reason
  | notFound id => "Sandbox not found: " ++ id
  | unready attempts waited =>
    s!"Sandbox failed to become healthy after {attempts} attempts ({waited} seconds)"
  | download reason => "File download failed: " ++ reason
  | settings reason => "Invalid configuration: " ++ reason

/-- The failure after that many attempts with a pause between each two. -/
def exhausted (attempts : Nat) (pause : Duration) : Failure :=
  unready attempts (pause.times (attempts - 1)).seconds

/-- Whether the request itself was wrong: it asks for no variant, or for one that is off. -/
def isRequestError : Failure → Bool
  | unsupportedTag _ | disabled _ => true
  | _ => false

/-- Whether the sandbox did not become ready in time. -/
def isTimeout : Failure → Bool
  | unready _ _ => true
  | _ => false

/-- Whether the Docker daemon could not be reached. -/
def isDockerUnavailable : Failure → Bool
  | dockerUnavailable _ => true
  | _ => false

end Failure

/-- The variant that a tag names, or the failure that carries the tag as it was given. -/
def Variant.parse (tag : String) : Except Failure Variant :=
  match ofTag? tag with
  | some variant => .ok variant
  | none => .error (.unsupportedTag tag)

end Sandboxes
