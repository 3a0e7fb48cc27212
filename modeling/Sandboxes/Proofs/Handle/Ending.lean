import Sandboxes.Proofs.Control.Runs
import Sandboxes.Proofs.Provisioner
import Sandboxes.Sandbox

/-!
# Beginning and end of a handle

What making a handle, waiting for its sandbox and destroying it do. Destroying comes to something the
first time only: the handle is closed and forgotten, and then its container is removed, if one goes
with it.
-/

namespace Sandboxes.Handle

open Program

variable {h : Handle} {p : Profile} {provisioner : Provisioner} {e : Container.Endpoint}
  {m m' : Memory} {log : Log}

/-- A new handle has the next number. -/
lemma runs_new :
    (new p provisioner e).Runs m log h m' ↔
      log = [] ∧ h = ofEndpoint p provisioner e m.made ∧ m' = { m with made := m.made + 1 } := by
  simp only [new, runs_bind_pure, runs_step, Memory.Step.apply]
  constructor
  · rintro ⟨_, ⟨hlog, rfl, hm⟩, hh⟩
    exact ⟨hlog, hh, hm⟩
  · rintro ⟨hlog, hh, hm⟩
    exact ⟨_, ⟨hlog, rfl, hm⟩, hh⟩

/-! ### Waiting -/

lemma confined_verifyReady : h.verifyReady.Confined Query.IsSandbox fun _ => False :=
  Control.Interface.confined_await

lemma confined_ensureReady : h.ensureReady.Confined Query.IsSandbox fun _ => False := by
  refine confined_verifyReady.bind fun out => ?_
  cases out with
  | ok _ => exact .done _
  | error failure =>
    dsimp only
    split <;> exact .done _

/-! ### Destroying -/

/-- Removes what goes with a handle. -/
def tearDown (h : Handle) : Program Bool :=
  match h.teardown with
  | none => pure true
  | some name => h.provisioner.remove name >>= fun out => pure out.isOk

lemma confined_tearDown : h.tearDown.Confined Query.Provisions fun _ => False := by
  unfold tearDown
  split
  · exact .done _
  · exact (h.provisioner.confined_remove _).bind_pure

lemma destroy_eq : h.destroy = .remember (.close h.number) fun closed =>
    if closed then pure true else .remember (.forget h.variant h.id) fun _ => h.tearDown := by
  refine congrArg (Program.remember _) (funext fun closed => ?_)
  cases closed with
  | true => rfl
  | false =>
    refine congrArg (Program.remember _) (funext fun _ => ?_)
    unfold tearDown
    cases h.teardown with
    | none => rfl
    | some name =>
      refine congrArg (h.provisioner.remove name >>= ·) (funext fun out => ?_)
      cases out <;> rfl

/-- A closed handle is left as it is. -/
lemma runs_destroy_closed {done : Bool} (closed : h.number ∈ m.closed) :
    h.destroy.Runs m log done m' ↔
      log = [] ∧ done = true ∧ m' = (Memory.Step.apply (.close h.number) m).2 := by
  simp [destroy_eq, runs_remember, Memory.Step.apply, closed]

/-- The memory after an open handle was closed and forgotten. -/
def afterClose (h : Handle) (m : Memory) : Memory :=
  (Memory.Step.apply (.forget h.variant h.id) (Memory.Step.apply (.close h.number) m).2).2

lemma runs_destroy_open {done : Bool} (opened : h.number ∉ m.closed) :
    h.destroy.Runs m log done m' ↔ h.tearDown.Runs (h.afterClose m) log done m' := by
  simp [destroy_eq, runs_remember, Memory.Step.apply, opened, afterClose]

end Sandboxes.Handle
