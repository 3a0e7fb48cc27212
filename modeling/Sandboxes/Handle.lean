import Sandboxes.Container.Spec
import Sandboxes.Control.Interface
import Sandboxes.Settings.Basic

/-!
# Handles

A handle stands for one sandbox: where its services are reached, and which container goes with it.
-/

namespace Sandboxes

/-- Where containers come from. -/
inductive Provisioner
  /-- Orders go to a container runtime outside. -/
  | delegated
  /-- The local Docker daemon runs them. -/
  | docker
  /-- There is one sandbox, managed elsewhere, at a fixed address. -/
  | fixed (address : String)
  deriving DecidableEq, Repr

/-- A sandbox. Handles that were made apart have different numbers, even for one container. -/
structure Handle where
  number : Nat
  id : String
  variant : Variant
  interface : Control.Interface
  vncUrl : String
  cdpUrl : String
  readiness : Readiness
  provisioner : Provisioner
  /-- The container that goes when the sandbox is destroyed, if it may be removed here. -/
  teardown : Option String
  deriving DecidableEq, Repr

end Sandboxes
