import Sandboxes.Provider

/-!
# Selection

The service chooses the variant, by request or by default, and passes requests on to its provider.
It also checks the health of a variant with a sandbox made for the purpose.
-/

namespace Sandboxes

/-- Sandboxes of both variants under given settings. -/
structure Service where
  settings : Settings
  provisioner : Provisioner
  deriving DecidableEq, Repr

/-- What a health check found. -/
structure Health where
  isHealthy : Bool
  /-- How long it took, in thousandths of a second. -/
  millis : Double
  /-- What went wrong. -/
  fault : Option String
  deriving DecidableEq, Repr

namespace Service

/-- The service under given settings, where containers come from wherever the settings say. -/
def ofSettings (s : Settings) : Service where
  settings := s
  provisioner := .ofSettings s

/-- The memory that a service starts with. -/
def memory (s : Service) : Memory :=
  .empty s.settings.instanceCacheSize.toNat s.settings.resolverCacheSize.toNat

/-- The variant that was asked for, or the default one. -/
def resolve (s : Service) (v : Option Variant) : Variant :=
  v.getD s.settings.defaultVariant

/-- The provider of a variant. -/
def provider (s : Service) (v : Variant) : Provider where
  profile := .ofSettings s.settings v
  provisioner := s.provisioner

/-- Makes a sandbox. -/
def create (s : Service) (v : Option Variant) : Program (Except Failure Handle) :=
  (s.provider (s.resolve v)).create

/-- The sandbox of that name. -/
def get (s : Service) (id : String) (v : Option Variant) : Program (Except Failure Handle) :=
  (s.provider (s.resolve v)).get id

/-- Whether a variant may be used. -/
def validate (s : Service) (v : Variant) : Except Failure Variant :=
  if v = .aio ∧ s.settings.aio.enabled = false then .error (.disabled v) else .ok v

/-- A time in nanoseconds as thousandths of a second. -/
def millisOf (nanos : Nat) : Double :=
  (Double.ofRatio? false nanos (10 ^ 6)).getD ⟨false, 0⟩

/-- Makes a sandbox, waits until it is ready, and destroys it. -/
def tryOut (s : Service) (v : Variant) : Program (Except Failure Unit) := do
  match ← (s.provider v).create with
  | .error failure => return .error failure
  | .ok handle =>
    let outcome ← handle.verifyReady
    let _ ← handle.destroy
    return outcome

/-- Checks the health of a variant. This never fails: what goes wrong is in the report. -/
def checkHealth (s : Service) (v : Option Variant) : Program Health := do
  let started ← Program.query .clock
  let outcome ← s.tryOut (s.resolve v)
  let ended ← Program.query .clock
  let millis := millisOf (ended - started)
  match outcome with
  | .ok _ => return { isHealthy := true, millis, fault := none }
  | .error failure => return { isHealthy := false, millis, fault := some failure.message }

end Service

end Sandboxes
