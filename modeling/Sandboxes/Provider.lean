import Sandboxes.Sandbox

/-!
# Providers

A provider makes sandboxes of one variant: new ones in containers of their own, and ones for
containers that are there, of which the last used are kept.
-/

namespace Sandboxes

/-- A maker of sandboxes of one variant. -/
structure Provider where
  profile : Profile
  provisioner : Provisioner
  deriving DecidableEq, Repr

namespace Provider

/-- Makes a sandbox in a new container. It is not kept. -/
def create (p : Provider) : Program (Except Failure Handle) := do
  let name := p.profile.containerName (← Program.query .draw)
  match ← p.provisioner.launch (p.profile.template.instantiate name) with
  | .ok endpoint => return .ok (← Handle.new p.profile p.provisioner endpoint)
  | .error failure => return .error failure

/-- The sandbox of that name: the one that is kept, or else one for the container, kept from now
on. -/
def get (p : Provider) (id : String) : Program (Except Failure Handle) := do
  match ← Program.step (.find p.profile.variant id) with
  | some handle => return .ok handle
  | none =>
    match ← p.provisioner.attach id with
    | .ok endpoint =>
      let handle ← Handle.new p.profile p.provisioner endpoint
      Program.step (.keep p.profile.variant id handle)
      return .ok handle
    | .error failure => return .error failure

end Provider

end Sandboxes
