import Sandboxes.Proofs.Control.Runs
import Sandboxes.Sandbox

/-!
# Actions

The fifteen operations that a handle offers inside its sandbox, taken together: fourteen that are
answered by an envelope, and fetching a file. On a closed handle each of them ends at once.
-/

namespace Sandboxes

open Program

namespace Control

/-- Any of the fifteen operations, with its arguments. -/
inductive Action
  | operate (o : Operation)
  | download (path : String)
  deriving DecidableEq, Repr

namespace Action

/-- The kind of an action. -/
def task : Action → Task
  | operate o => o.task
  | download _ => .fileDownload

/-- The routes of an action. -/
def plan (v : Variant) : Action → Plan
  | operate o => o.plan v
  | download _ => Task.fileDownload.plan v

/-- Whether doing the action twice may do more than doing it once: commands, input to a process,
replacements, uploads, and writing at the end of a file. -/
def hasSideEffects : Action → Bool
  | operate (.exec ..) | operate (.writeInput ..) | operate (.fileReplace ..)
  | operate (.fileUpload ..) => true
  | operate (.fileWrite request) => request.append
  | _ => false

/-- What an action gives. -/
inductive Answer
  | envelope (e : Envelope)
  | file (content : Except Failure Bytes)
  deriving Repr

variable (a : Action) (v : Variant)

@[simp] lemma plan_primary : (a.plan v).primary = a.task.primary := by
  cases a <;> rfl

@[simp] lemma plan_fallback : (a.plan v).fallback = (a.task.plan v).fallback := by
  cases a <;> rfl

/-- Exactly the actions with side effects are not sent again unless that is safe. -/
lemma plan_replay : (a.plan v).replay = if a.hasSideEffects then .unsent else .always := by
  cases a with
  | download path => rfl
  | operate o => cases o <;> rfl

end Action

end Control

namespace Handle

open Control

/-- Does an action inside the sandbox. -/
def act (h : Handle) : Action → Program Action.Answer
  | .operate o => do return .envelope (← h.perform o)
  | .download path => do return .file (← h.download path)

/-- What every action gives on a closed handle. -/
def closedAnswer (h : Handle) : Action → Action.Answer
  | .operate _ => .envelope (.failure ("Sandbox " ++ h.id ++ " has been destroyed"))
  | .download _ => .file (.error (.download ("sandbox " ++ h.id ++ " has been destroyed")))

/-- What every action does on an open handle. -/
def actOpen (h : Handle) : Action → Program Action.Answer
  | .operate o => do return .envelope (← h.interface.call (o.plan h.variant) o.content)
  | .download path =>
    do return .file (← h.interface.download (Task.fileDownload.plan h.variant) path)

/-- Every action looks first whether the handle is closed. -/
lemma act_eq (h : Handle) (a : Action) :
    h.act a = .remember (.isClosed h.number) fun closed =>
      if closed then pure (h.closedAnswer a) else h.actOpen a := by
  cases a with
  | operate o => exact congrArg (Program.remember _) (funext fun closed => by cases closed <;> rfl)
  | download path => exact congrArg (Program.remember _) (funext fun closed => by cases closed <;> rfl)

variable {h : Handle} {a : Action} {m m' : Memory} {log : Log} {r : Action.Answer}

lemma runs_act_closed (closed : h.number ∈ m.closed) :
    (h.act a).Runs m log r m' ↔ log = [] ∧ r = h.closedAnswer a ∧ m' = m := by
  simp [act_eq, runs_remember, Memory.Step.apply, closed]

lemma runs_act_open (opened : h.number ∉ m.closed) :
    (h.act a).Runs m log r m' ↔ (h.actOpen a).Runs m log r m' := by
  simp [act_eq, runs_remember, Memory.Step.apply, opened]

/-- An operation on an open handle is a call along its plan. -/
lemma runs_perform_open {o : Operation} {e : Envelope} (opened : h.number ∉ m.closed) :
    (h.perform o).Runs m log e m' ↔ (h.interface.call (o.plan h.variant) o.content).Runs m log e m' := by
  have asks : h.perform o = .remember (.isClosed h.number) fun closed =>
      if closed then pure h.closedResult else h.interface.call (o.plan h.variant) o.content :=
    congrArg (Program.remember _) (funext fun closed => by cases closed <;> rfl)
  simp [asks, runs_remember, Memory.Step.apply, opened]

end Handle

end Sandboxes
