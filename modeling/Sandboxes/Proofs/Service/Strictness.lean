import Sandboxes.Proofs.Provider.Instances
import Sandboxes.Proofs.Service.Cleanup

/-!
# What strictness is for

Whether a sandbox that does not become ready is a failure is a matter of the settings for the command
that makes sandboxes, and for nothing else. In a health check it always is one. Two services that
differ in this setting only are run side by side, in worlds that differ in what the clock tells.
-/

namespace Sandboxes

open Program

/-! ### Two runs -/

/-- Whether the clock is looked at. -/
def Query.isClock : Query → Bool
  | .clock => true
  | _ => false

/-- What was exchanged but for looks at the clock. -/
def Log.untimed (log : Log) : Log :=
  log.filter fun x => !x.query.isClock

@[simp] lemma Log.untimed_append (l l' : Log) : (l ++ l').untimed = l.untimed ++ l'.untimed :=
  List.filter_append ..

/-- Two worlds give the same replies, except to looks at the clock. -/
def SameButClock (world world' : Log → (q : Query) → q.Reply) : Prop :=
  ∀ past past' q, past.untimed = past'.untimed → q.isClock = false → world past q = world' past' q

/-- Two memories are the same, except for the handles that they keep. -/
structure Memory.SameButKept (m n : Memory) : Prop where
  made : m.made = n.made
  closed : m.closed = n.closed
  addresses : m.addresses = n.addresses

/-- Steps that do not look for handles that are kept. -/
def Memory.Step.Overlooks : Memory.Step → Prop
  | .find _ _ => False
  | _ => True

section TwoRuns

variable {α : Type} {p : Program α} {m n : Memory} {past past' : Log}
  {world world' : Log → (q : Query) → q.Reply}

lemma Memory.SameButKept.setKept (h : m.SameButKept n) (v : Variant)
    (handles handles' : Recent String Handle) :
    (m.setKept v handles).SameButKept (n.setKept v handles') := by
  cases v <;> exact ⟨h.made, h.closed, h.addresses⟩

/-- A step that does not look for handles tells the same of both memories. -/
lemma Memory.SameButKept.apply (h : m.SameButKept n) {s : Memory.Step} (hs : s.Overlooks) :
    (s.apply m).1 = (s.apply n).1 ∧ (s.apply m).2.SameButKept (s.apply n).2 := by
  cases s with
  | find v id => exact hs.elim
  | number => exact ⟨h.made, congrArg (· + 1) h.made, h.closed, h.addresses⟩
  | isClosed k => exact ⟨congrArg (fun l => decide (k ∈ l)) h.closed, h⟩
  | close k =>
    exact ⟨congrArg (fun l => decide (k ∈ l)) h.closed, h.made, congrArg (k :: ·) h.closed,
      h.addresses⟩
  | keep v id handle => exact ⟨rfl, h.setKept v _ _⟩
  | forget v id => exact ⟨rfl, h.setKept v _ _⟩
  | findAddress host =>
    exact ⟨congrArg (·.find? host) h.addresses, h.made, h.closed, congrArg (·.touch host) h.addresses⟩
  | keepAddress host address =>
    exact ⟨rfl, h.made, h.closed, congrArg (·.insert host address) h.addresses⟩

/-- A program that neither looks at the clock nor for handles cannot tell such runs apart. -/
lemma same_of_run (worlds : SameButClock world world')
    (hp : p.Confined (·.isClock = false) Memory.Step.Overlooks) (memories : m.SameButKept n)
    (pasts : past.untimed = past'.untimed) :
    let r := p.run (answering world) m past
    let r' := p.run (answering world') n past'
    r.1.1 = r'.1.1 ∧ r.1.2.SameButKept r'.1.2 ∧ r.2.untimed = r'.2.untimed := by
  -- The replies depend on what was exchanged before, which grows with every question.
  induction hp generalizing m n past past' with
  | done a => exact ⟨rfl, memories, pasts⟩
  | @ask q next asks rest ih =>
    have reply := worlds past past' q pasts asks
    simp only [run_answering_ask, reply]
    refine ih _ memories ?_
    rw [Log.untimed_append, Log.untimed_append, pasts]
  | @remember s next takes rest ih =>
    obtain ⟨told, after⟩ := memories.apply takes
    simp only [run_answering_remember, told]
    exact ih _ after pasts

end TwoRuns

/-! ### Programs that do not look -/

/-- Neither looks at the clock nor for handles that are kept. -/
structure Program.Unseeing {α : Type} (p : Program α) : Prop where
  confined : p.Confined (·.isClock = false) Memory.Step.Overlooks

lemma Query.IsSandbox.isClock {q : Query} (h : q.IsSandbox) : q.isClock = false := by
  cases q with
  | clock => exact h.elim
  | _ => rfl

lemma Query.Provisions.isClock {q : Query} (h : q.Provisions) : q.isClock = false := by
  cases q with
  | clock => exact h.elim
  | _ => rfl

lemma Memory.Step.IsAddress.overlooks {s : Memory.Step} (h : s.IsAddress) : s.Overlooks := by
  cases s with
  | find v id => exact h.elim
  | _ => trivial

namespace Handle

variable {h : Handle}

lemma unseeing_verifyReady : h.verifyReady.Unseeing :=
  ⟨confined_verifyReady.mono (fun _ => Query.IsSandbox.isClock) fun _ => False.elim⟩

lemma unseeing_destroy : h.destroy.Unseeing := by
  rw [destroy_eq]
  refine ⟨.remember trivial fun closed => ?_⟩
  split
  · exact .done _
  · exact .remember trivial fun _ =>
      confined_tearDown.mono (fun _ => Query.Provisions.isClock) fun _ => False.elim

end Handle

lemma Provider.unseeing_create {p : Provider} : p.create.Unseeing := by
  refine ⟨Confined.bind (confined_query.mpr rfl) fun number => ?_⟩
  refine Confined.bind ((p.provisioner.confined_launch _).mono
    (fun _ => Query.Provisions.isClock) fun _ => Memory.Step.IsAddress.overlooks) fun out => ?_
  cases out with
  | error failure => exact .done _
  | ok e => exact Confined.bind_pure (Confined.bind_pure (confined_step.mpr trivial))

namespace Service

variable {s : Service} {v : Option Variant}

lemma unseeing_tryOut {v : Variant} : (s.tryOut v).Unseeing := by
  refine ⟨Provider.unseeing_create.confined.bind fun made => ?_⟩
  cases made with
  | error failure => exact .done _
  | ok h =>
    exact Handle.unseeing_verifyReady.confined.bind fun ready =>
      Handle.unseeing_destroy.confined.bind_pure

/-! ### The setting -/

/-- The same service, but for whether a sandbox that does not become ready is a failure. -/
def withStrict (s : Service) (strict : Bool) : Service :=
  { s with settings := { s.settings with
      readiness := { s.settings.readiness with strict } } }

end Service

/-- Waiting until a sandbox is ready does not depend on what is made of it. -/
lemma Control.Interface.await_withStrict (i : Interface) (p : Probe) (r : Readiness)
    (strict : Bool) : i.await p { r with strict } = i.await p r := by
  have poll (attempts : Nat) : i.poll p { r with strict } attempts = i.poll p r attempts := by
    induction attempts with
    | zero => rfl
    | succ left ih =>
      simp only [Interface.poll, ih]
      rfl
  simp only [await, poll]
  rfl

/-- Waits until a sandbox is ready, and destroys it. -/
def Handle.trial (h : Handle) : Program (Except Failure Unit) :=
  h.verifyReady >>= fun ready => h.destroy >>= fun _ => pure ready

lemma Handle.trial_withStrict (h : Handle) (strict : Bool) :
    Handle.trial { h with readiness := { h.readiness with strict } } = h.trial :=
  congrArg (· >>= fun ready => h.destroy >>= fun _ => pure ready)
    (h.interface.await_withStrict _ h.readiness strict)

namespace Service

variable {s : Service} {v : Option Variant}

/-- Trying out a sandbox, step by step. -/
lemma tryOut_eq (v : Variant) :
    s.tryOut v = query .draw >>= fun number => (s.provider v).launching number >>= fun launched =>
      match launched with
      | .error failure => pure (.error failure)
      | .ok e => step .number >>= fun k =>
        (Handle.ofEndpoint (s.provider v).profile s.provisioner e k).trial := by
  rw [tryOut, Provider.create, bind_assoc]
  refine congrArg (query .draw >>= ·) (funext fun number => ?_)
  rw [bind_assoc]
  refine congrArg ((s.provider v).launching number >>= ·) (funext fun launched => ?_)
  cases launched with
  | error failure => rfl
  | ok e => rfl

/-- Trying out a sandbox does not depend on the setting. -/
lemma tryOut_withStrict (strict : Bool) (v : Variant) :
    (s.withStrict strict).tryOut v = s.tryOut v := by
  rw [tryOut_eq, tryOut_eq]
  refine congrArg (query .draw >>= ·) (funext fun number => ?_)
  have launching : ((s.withStrict strict).provider v).launching number =
      (s.provider v).launching number := by
    cases v <;> rfl
  rw [launching]
  refine congrArg ((s.provider v).launching number >>= ·) (funext fun launched => ?_)
  cases launched with
  | error failure => rfl
  | ok e =>
    refine congrArg (step .number >>= ·) (funext fun k => ?_)
    let h := Handle.ofEndpoint (s.provider v).profile s.provisioner e k
    have handle : Handle.ofEndpoint ((s.withStrict strict).provider v).profile s.provisioner e k =
        { h with readiness := { h.readiness with strict } } := by
      cases v <;> rfl
    exact (congrArg Handle.trial handle).trans (h.trial_withStrict strict)

/-- A health check is a trial between two looks at the clock. -/
lemma run_checkHealth (world : Log → (q : Query) → q.Reply) (m : Memory) :
    let tried := (s.tryOut (s.resolve v)).run (answering world) m [⟨.clock, world [] .clock⟩]
    (s.checkHealth v).run (answering world) m [] =
      ((reportOf (millisOf (world tried.2 .clock - world [] .clock)) tried.1.1, tried.1.2),
        tried.2 ++ [⟨.clock, world tried.2 .clock⟩]) := by
  rw [checkHealth_eq]
  exact run_answering_bind world (s.tryOut (s.resolve v)) _ _

lemma isHealthy_reportOf (millis : Double) (outcome : Except Failure Unit) :
    (reportOf millis outcome).isHealthy = outcome.isOk := by
  cases outcome <;> rfl

lemma fault_reportOf (millis millis' : Double) (outcome : Except Failure Unit) :
    (reportOf millis outcome).fault = (reportOf millis' outcome).fault := by
  cases outcome <;> rfl

/-- Two health checks in worlds that differ in what the clock tells, under settings that differ in
strictness, find the same and exchange the same. -/
lemma same_of_run_checkHealth {world world' : Log → (q : Query) → q.Reply} {m n : Memory}
    (worlds : SameButClock world world') (memories : m.SameButKept n) (strict : Bool) :
    let r := (s.checkHealth v).run (answering world) m []
    let r' := ((s.withStrict strict).checkHealth v).run (answering world') n []
    r.1.1.isHealthy = r'.1.1.isHealthy ∧ r.1.1.fault = r'.1.1.fault ∧
      r.2.untimed = r'.2.untimed ∧ r.1.2.SameButKept r'.1.2 := by
  have resolved : (s.withStrict strict).resolve v = s.resolve v := rfl
  rw [run_checkHealth, run_checkHealth, resolved, tryOut_withStrict]
  have pasts : Log.untimed [⟨.clock, world [] .clock⟩] = Log.untimed [⟨.clock, world' [] .clock⟩] :=
    rfl
  obtain ⟨outcome, after, logs⟩ :=
    same_of_run worlds (unseeing_tryOut (v := s.resolve v)).confined memories pasts
  refine ⟨?_, ?_, ?_, after⟩
  · rw [isHealthy_reportOf, isHealthy_reportOf, outcome]
  · rw [outcome]
    exact fault_reportOf _ _ _
  · simp only [Log.untimed_append, logs]
    rfl

/-! ### What a health check reports -/

lemma of_runs_trial {h : Handle} {m m' : Memory} {log : Log} {ready : Except Failure Unit}
    (run : h.trial.Runs m log ready m') :
    ∃ waiting ending done, h.verifyReady.Runs m waiting ready m ∧ h.destroy.Runs m ending done m' ∧
      log = waiting ++ ending := by
  obtain ⟨waiting, outcome, m₁, ending, h₁, h₂, rfl⟩ := runs_bind.mp run
  obtain rfl := Handle.confined_verifyReady.memory_eq h₁
  obtain ⟨done, hdestroy, rfl⟩ := runs_bind_pure.mp h₂
  exact ⟨waiting, ending, done, h₁, hdestroy, rfl⟩

/-- What became of trying out a sandbox: it was not launched, or it was waited for and destroyed. -/
def Tried (s : Service) (v : Variant) (m' : Memory) (rest : Log) (outcome : Except Failure Unit) :
    Except Failure Container.Endpoint → Memory → Prop
  | .error failure, m₁ => rest = [] ∧ outcome = .error failure ∧ m' = m₁
  | .ok e, m₁ => ∃ waiting ending done,
    let h := Handle.ofEndpoint (s.provider v).profile s.provisioner e m₁.made
    let m₂ := { m₁ with made := m₁.made + 1 }
    h.verifyReady.Runs m₂ waiting outcome m₂ ∧ h.destroy.Runs m₂ ending done m' ∧
      rest = waiting ++ ending

lemma tried_of_runs_tryOut {v : Variant} {m m' : Memory} {log : Log} {outcome : Except Failure Unit}
    (run : (s.tryOut v).Runs m log outcome m') :
    ∃ number launch launched m₁ rest,
      ((s.provider v).launching number).Runs m launch launched m₁ ∧
      log = ⟨.draw, number⟩ :: (launch ++ rest) ∧ s.Tried v m' rest outcome launched m₁ := by
  rw [tryOut_eq] at run
  obtain ⟨_, number, _, _, hdraw, h, rfl⟩ := runs_bind.mp run
  obtain ⟨rfl, rfl⟩ := runs_query.mp hdraw
  obtain ⟨launch, launched, m₁, rest, hlaunch, hrest, rfl⟩ := runs_bind.mp h
  refine ⟨number, launch, launched, m₁, rest, hlaunch, rfl, ?_⟩
  cases launched with
  | error failure => exact runs_pure.mp hrest
  | ok e =>
    obtain ⟨_, k, _, _, hstep, htrial, rfl⟩ := runs_bind.mp hrest
    obtain ⟨rfl, rfl, rfl⟩ := runs_step.mp hstep
    exact of_runs_trial htrial

end Service

/-! ### Waiting and strictness -/

/-- Waiting fails only by running out of attempts. -/
lemma Control.Interface.isTimeout_of_runs_await {i : Interface} {p : Probe} {r : Readiness}
    {m m' : Memory} {log : Log} {failure : Failure}
    (run : (i.await p r).Runs m log (.error failure) m') : failure.isTimeout = true := by
  obtain ⟨log₁, ready, m₁, log₂, -, h, -⟩ := runs_bind.mp run
  cases ready with
  | true => cases (runs_pure.mp h).2.1
  | false =>
    cases (runs_pure.mp h).2.1
    rfl

/-- What is made of waiting is all that strictness is for. -/
lemma Handle.runs_ensureReady {h : Handle} {m m' : Memory} {log : Log} {out : Except Failure Unit} :
    h.ensureReady.Runs m log out m' ↔ ∃ ready, h.verifyReady.Runs m log ready m' ∧
      out = if h.readiness.strict then ready else .ok () := by
  constructor
  · intro run
    obtain ⟨waiting, ready, m₁, rest, h₁, h₂, rfl⟩ := runs_bind.mp run
    obtain ⟨rfl, hout, rfl⟩ : rest = [] ∧ out = (if h.readiness.strict then ready else .ok ()) ∧
        m' = m₁ := by
      cases ready with
      | ok _ => simpa using h₂
      | error failure =>
        have timeout : failure.isTimeout = true := Control.Interface.isTimeout_of_runs_await h₁
        cases hs : h.readiness.strict <;> simpa [hs, timeout] using h₂
    exact ⟨ready, by rwa [List.append_nil], hout⟩
  · rintro ⟨ready, run, rfl⟩
    refine runs_bind.mpr ⟨log, ready, m', [], run, ?_, (List.append_nil log).symm⟩
    cases ready with
    | ok _ => simp
    | error failure =>
      have timeout : failure.isTimeout = true := Control.Interface.isTimeout_of_runs_await run
      cases hs : h.readiness.strict <;> simp [timeout]

namespace Command

variable {s : Service} {v : Option Variant} {screen : Terminal.Screen} {m m' : Memory} {log : Log}

/-- Without strictness a new sandbox is not destroyed. -/
lemma of_runs_readyOrDestroyed {h : Handle} {out : Except Failure Unit}
    (lenient : h.readiness.strict = false) (run : (readyOrDestroyed h).Runs m log out m') :
    (∀ x ∈ log, x.query.IsSandbox) ∧ out = .ok () ∧ m' = m := by
  obtain ⟨log₁, ready, m₁, log₂, h₁, h₂, rfl⟩ := runs_bind.mp run
  have asked := Handle.confined_ensureReady.asked h₁
  obtain rfl := Handle.confined_ensureReady.memory_eq h₁
  obtain ⟨outcome, -, rfl⟩ := Handle.runs_ensureReady.mp h₁
  rw [lenient, if_neg Bool.false_ne_true] at h₂
  obtain ⟨rfl, rfl, rfl⟩ := runs_pure.mp h₂
  exact ⟨by simpa using asked, rfl, rfl⟩

/-- What the command that makes a sandbox does after the container was launched: it waits and prints,
and succeeds. -/
def Lenient (m' : Memory) (rest : Log) (out : Except (List String) Sequel) (m₁ : Memory) : Prop :=
  out = .ok .nothing ∧ m' = { m₁ with made := m₁.made + 1 } ∧
    ∀ x ∈ rest, x.query.IsSandbox ∨ ∃ content, x.query = .print content

lemma lenient_of_runs_create {out : Except (List String) Sequel}
    (lenient : s.settings.readiness.strict = false)
    (run : (Command.run screen s (.create v)).Runs m log out m') :
    ∃ number launch launched m₁ rest,
      ((s.provider (s.resolve v)).launching number).Runs m launch launched m₁ ∧
      log = ⟨.draw, number⟩ :: (launch ++ rest) ∧ (launched.isOk → Lenient m' rest out m₁) := by
  obtain ⟨done, hdone, rfl⟩ := of_runs_create run
  rcases runs_except_bind.mp hdone with ⟨log₁, h, m₁, log₂, h₁, h₂, rfl⟩ | ⟨e, h₁, rfl⟩
  case inr =>
    obtain ⟨r, hmade, failed⟩ := Attempt.runs_within.mp h₁
    obtain ⟨number, launch, launched, addresses, hlaunch, rfl, made⟩ :=
      Provider.launched_of_runs_create hmade
    refine ⟨number, launch, launched, _, [], hlaunch, by simp, fun ok => ?_⟩
    obtain ⟨failure, rfl, -, -⟩ | ⟨e, -, rfl, -⟩ := made
    · cases ok
    · cases failed
  obtain ⟨r, hmade, created⟩ := Attempt.runs_within.mp h₁
  obtain ⟨number, launch, launched, addresses, hlaunch, rfl, made⟩ :=
    Provider.launched_of_runs_create hmade
  refine ⟨number, launch, launched, _, log₂, hlaunch, rfl, fun _ => ?_⟩
  obtain ⟨failure, -, rfl, -⟩ | ⟨e, -, rfl, rfl⟩ := made
  · cases created
  cases created
  have handle : (Handle.ofEndpoint (s.provider (s.resolve v)).profile s.provisioner e
      m.made).readiness.strict = false := by
    cases s.resolve v <;> exact lenient
  rcases runs_except_bind.mp h₂ with ⟨log₃, _, m₂, log₄, h₃, h₄, rfl⟩ | ⟨e, h₃, -⟩
  case inr =>
    obtain ⟨ready, hready, failed⟩ := Attempt.runs_within.mp h₃
    obtain ⟨-, rfl, -⟩ := of_runs_readyOrDestroyed handle hready
    cases failed
  obtain ⟨ready, hready, -⟩ := Attempt.runs_within.mp h₃
  obtain ⟨asked, -, rfl⟩ := of_runs_readyOrDestroyed handle hready
  obtain ⟨prints, rfl, rfl⟩ := of_runs_print h₄
  refine ⟨rfl, rfl, fun x hx => ?_⟩
  rcases List.mem_append.mp hx with hx | hx
  · exact .inl (asked x hx)
  · exact .inr (prints x hx)

end Command

/-! ### The whole of it -/

lemma Service.report_of_runs_checkHealth {s : Service} {v : Option Variant} {m m' : Memory}
    {log : Log} {health : Health} (run : (s.checkHealth v).Runs m log health m') :
    ∃ (started ended : Nat) (number : UInt32) (launch rest : Log) (launched : _) (m₁ : Memory)
      (outcome : Except Failure Unit),
      ((s.provider (s.resolve v)).launching number).Runs m launch launched m₁ ∧
      log = ⟨.clock, started⟩ :: ⟨.draw, number⟩ :: (launch ++ rest ++ [⟨.clock, ended⟩]) ∧
      s.Tried (s.resolve v) m' rest outcome launched m₁ ∧
      health.isHealthy = (launched.isOk && outcome.isOk) ∧
      health.fault.isSome = !health.isHealthy := by
  obtain ⟨started, ended, tried, outcome, htry, rfl, rfl⟩ := runs_checkHealth.mp run
  obtain ⟨number, launch, launched, m₁, rest, hlaunch, rfl, h⟩ := tried_of_runs_tryOut htry
  refine ⟨started, ended, number, launch, rest, launched, m₁, outcome, hlaunch, rfl, h, ?_, ?_⟩
  · cases launched with
    | error failure =>
      obtain ⟨-, rfl, -⟩ := h
      rfl
    | ok e => cases outcome <;> rfl
  · cases outcome <;> rfl

/-- What strictness is for. Two health checks in worlds that differ in what the clock tells, and under
settings that differ in strictness, find the same and exchange the same. A health check finds a sandbox
healthy exactly if it was launched and became ready, and tells what went wrong exactly if it did not.
Waiting for a sandbox exchanges the same with strictness and without, and fails only with it; without
it, the command that makes a sandbox succeeds whenever the container was launched, and waits and prints
after that but destroys nothing. -/
theorem role_of_strict (s : Service) (v : Option Variant) (screen : Terminal.Screen) :
    (∀ world world' m n, SameButClock world world' → m.SameButKept n → ∀ strict,
      let r := (s.checkHealth v).run (answering world) m []
      let r' := ((s.withStrict strict).checkHealth v).run (answering world') n []
      r.1.1.isHealthy = r'.1.1.isHealthy ∧ r.1.1.fault = r'.1.1.fault ∧
        r.2.untimed = r'.2.untimed ∧ r.1.2.SameButKept r'.1.2) ∧
    (∀ m log health m', (s.checkHealth v).Runs m log health m' →
      ∃ (started ended : Nat) (number : UInt32) (launch rest : Log) (launched : _) (m₁ : Memory)
        (outcome : Except Failure Unit),
        ((s.provider (s.resolve v)).launching number).Runs m launch launched m₁ ∧
        log = ⟨.clock, started⟩ :: ⟨.draw, number⟩ :: (launch ++ rest ++ [⟨.clock, ended⟩]) ∧
        s.Tried (s.resolve v) m' rest outcome launched m₁ ∧
        health.isHealthy = (launched.isOk && outcome.isOk) ∧
        health.fault.isSome = !health.isHealthy) ∧
    (∀ (h : Handle) m log out m', h.ensureReady.Runs m log out m' ↔
      ∃ ready, h.verifyReady.Runs m log ready m' ∧
        out = if h.readiness.strict then ready else .ok ()) ∧
    (s.settings.readiness.strict = false →
      ∀ m log out m', (Command.run screen s (.create v)).Runs m log out m' →
      ∃ number launch launched m₁ rest,
        ((s.provider (s.resolve v)).launching number).Runs m launch launched m₁ ∧
        log = ⟨.draw, number⟩ :: (launch ++ rest) ∧
        (launched.isOk → Command.Lenient m' rest out m₁)) := by
  refine ⟨?_, ?_, ?_, ?_⟩
  · intro world world' m n worlds memories strict
    exact Service.same_of_run_checkHealth worlds memories strict
  · intro m log health m' run
    exact Service.report_of_runs_checkHealth run
  · intro h m log out m'
    exact Handle.runs_ensureReady
  · intro lenient m log out m' run
    exact Command.lenient_of_runs_create lenient run

/-- Settings under which a sandbox is tried once, and need not become ready. -/
def Settings.lenient : Settings :=
  { Settings.usual with
    sandboxAddress := some "127.0.0.1"
    readiness := { Readiness.usual with maxAttempts := 1, strict := false } }

/-- A world in which nothing answers, and the clock stands still. -/
def deserted (time : Nat) : Log → (q : Query) → q.Reply
  | _, .clock => time
  | _, _ => default

/-- A sandbox that does not answer is found unhealthy with strictness and without, and the command makes
it nevertheless. -/
theorem role_of_strict_deserted :
    let s := Service.ofSettings .lenient
    let r := (s.checkHealth none).run (answering (deserted 1)) (.empty 4 4) []
    let r' := ((s.withStrict true).checkHealth none).run (answering (deserted 2)) (.empty 4 4) []
    r.1.1.isHealthy = false ∧ r'.1.1.isHealthy = false ∧ r.1.1.fault = r'.1.1.fault ∧
      r.2.untimed = r'.2.untimed ∧ r.2.untimed.length = 2 ∧
      ∃ log m', (Command.run ⟨false⟩ s (.create none)).Runs (.empty 4 4) log (.ok .nothing) m' := by
  obtain ⟨twoRuns, -, -, create⟩ := role_of_strict (.ofSettings .lenient) none ⟨false⟩
  have worlds : SameButClock (deserted 1) (deserted 2) := by
    intro past past' q _ timeless
    cases q <;> first | rfl | cases timeless
  obtain ⟨healthy, fault, logs, -⟩ := twoRuns _ _ (.empty 4 4) (.empty 4 4) worlds ⟨rfl, rfl, rfl⟩ true
  have unhealthy : (((Service.ofSettings .lenient).checkHealth none).run (answering (deserted 1))
    (.empty 4 4) []).1.1.isHealthy = false := by decide +kernel
  have count : (Log.untimed (((Service.ofSettings .lenient).checkHealth none).run
    (answering (deserted 1)) (.empty 4 4) []).2).length = 2 := by decide +kernel
  refine ⟨unhealthy, healthy ▸ unhealthy, fault, logs, count, ?_⟩
  have run := runs_answering (deserted 1) (Command.run ⟨false⟩ (.ofSettings .lenient) (.create none))
    (.empty 4 4)
  obtain ⟨number, launch, launched, m₁, rest, hlaunch, -, lenient⟩ := create rfl _ _ _ _ run
  obtain ⟨host, -, rfl⟩ := runs_bind_pure.mp hlaunch
  exact ⟨_, _, (lenient rfl).1 ▸ run⟩

end Sandboxes
