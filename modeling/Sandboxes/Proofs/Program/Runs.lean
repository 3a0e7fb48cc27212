import Mathlib.Tactic.Lemma
import Sandboxes.Program

/-!
# Runs of programs

A run of a program is what it exchanges with the world outside, in order, together with its result and
the memory that it leaves. The world may give any reply to any question, so that what holds of every
run holds whatever the world does. `Program.run` comes to a run of this kind with any world, also one
that looks at all that was exchanged before.
-/

namespace Sandboxes

/-- A question and its reply. -/
structure Exchange where
  query : Query
  reply : query.Reply

/-- What was exchanged with the world outside, in order. -/
abbrev Log := List Exchange

namespace Program

variable {α β ε : Type}

/-! ### Laws of programs -/

@[simp] lemma done_bind (a : α) (f : α → Program β) : (done a).bind f = f a := rfl

@[simp] lemma ask_bind (q : Query) (next : q.Reply → Program α) (f : α → Program β) :
    (ask q next).bind f = ask q fun r => (next r).bind f := rfl

@[simp] lemma remember_bind (s : Memory.Step) (next : s.Result → Program α) (f : α → Program β) :
    (remember s next).bind f = remember s fun r => (next r).bind f := rfl

lemma bind_done (p : Program α) : p.bind done = p := by
  induction p with
  | done a => rfl
  | ask q next ih => simp only [ask_bind, ih]
  | remember s next ih => simp only [remember_bind, ih]

lemma bind_bind {γ : Type} (p : Program α) (f : α → Program β) (g : β → Program γ) :
    (p.bind f).bind g = p.bind fun a => (f a).bind g := by
  induction p with
  | done a => rfl
  | ask q next ih => simp only [ask_bind, ih]
  | remember s next ih => simp only [remember_bind, ih]

instance : LawfulMonad Program :=
  LawfulMonad.mk' Program (fun p => bind_done p) (fun _ _ => rfl) bind_bind

/-! ### Runs -/

/-- `p.Runs m log a m'` says that from the memory `m` the program may exchange `log` and be done with
`a`, with the memory `m'` by then. -/
inductive Runs : Program α → Memory → Log → α → Memory → Prop
  | done (a : α) (m : Memory) : Runs (.done a) m [] a m
  | ask {q : Query} {next : q.Reply → Program α} {m m' : Memory} {log : Log} {a : α} (r : q.Reply)
      (h : Runs (next r) m log a m') : Runs (.ask q next) m (⟨q, r⟩ :: log) a m'
  | remember {s : Memory.Step} {next : s.Result → Program α} {m m' : Memory} {log : Log} {a : α}
      (h : Runs (next (s.apply m).1) (s.apply m).2 log a m') : Runs (.remember s next) m log a m'

variable {m m' : Memory} {log : Log} {a b : α}

@[simp] lemma runs_done : (done a).Runs m log b m' ↔ log = [] ∧ b = a ∧ m' = m := by
  constructor
  · intro h
    cases h
    exact ⟨rfl, rfl, rfl⟩
  · rintro ⟨rfl, rfl, rfl⟩
    exact .done b m'

lemma runs_ask {q : Query} {next : q.Reply → Program α} :
    (ask q next).Runs m log a m' ↔
      ∃ r rest, log = ⟨q, r⟩ :: rest ∧ (next r).Runs m rest a m' := by
  constructor
  · intro h
    cases h with
    | ask r h => exact ⟨r, _, rfl, h⟩
  · rintro ⟨r, rest, rfl, h⟩
    exact .ask r h

lemma runs_remember {s : Memory.Step} {next : s.Result → Program α} :
    (remember s next).Runs m log a m' ↔
      (next (s.apply m).1).Runs (s.apply m).2 log a m' := by
  constructor
  · intro h
    cases h with
    | remember h => exact h
  · exact .remember

@[simp] lemma runs_pure : (pure a : Program α).Runs m log b m' ↔ log = [] ∧ b = a ∧ m' = m :=
  runs_done

@[simp] lemma runs_query {q : Query} {r : q.Reply} :
    @Runs (no_index q.Reply) (query q) m log r m' ↔ log = [⟨q, r⟩] ∧ m' = m := by
  simp only [query, runs_ask, runs_done]
  constructor
  · rintro ⟨_, _, rfl, rfl, rfl, rfl⟩
    exact ⟨rfl, rfl⟩
  · rintro ⟨rfl, rfl⟩
    exact ⟨r, [], rfl, rfl, rfl, rfl⟩

@[simp] lemma runs_step {s : Memory.Step} {r : s.Result} :
    @Runs (no_index s.Result) (step s) m log r m' ↔ log = [] ∧ r = (s.apply m).1 ∧ m' = (s.apply m).2 := by
  simp only [step, runs_remember, runs_done]

/-- A run of two programs in turn is a run of the first and then one of the second. -/
lemma runs_bind {p : Program α} {f : α → Program β} {b : β} :
    (p >>= f).Runs m log b m' ↔
      ∃ log₁ a m₁ log₂, p.Runs m log₁ a m₁ ∧ (f a).Runs m₁ log₂ b m' ∧ log = log₁ ++ log₂ := by
  change (p.bind f).Runs m log b m' ↔ _
  induction p generalizing m log with
  | done a =>
    simp only [done_bind, runs_done]
    constructor
    · intro h
      exact ⟨[], a, m, log, ⟨rfl, rfl, rfl⟩, h, rfl⟩
    · rintro ⟨_, _, _, _, ⟨rfl, rfl, rfl⟩, h, rfl⟩
      exact h
  | ask q next ih =>
    simp only [ask_bind, runs_ask, ih]
    constructor
    · rintro ⟨r, _, rfl, log₁, a, m₁, log₂, h₁, h₂, rfl⟩
      exact ⟨⟨q, r⟩ :: log₁, a, m₁, log₂, ⟨r, log₁, rfl, h₁⟩, h₂, rfl⟩
    · rintro ⟨_, a, m₁, log₂, ⟨r, log₁, rfl, h₁⟩, h₂, rfl⟩
      exact ⟨r, log₁ ++ log₂, rfl, log₁, a, m₁, log₂, h₁, h₂, rfl⟩
  | remember s next ih => simp only [remember_bind, runs_remember, ih]

/-- A run that maps a result is a run to what is mapped. -/
lemma runs_bind_pure {p : Program α} {f : α → β} {b : β} :
    (p >>= fun a => pure (f a)).Runs m log b m' ↔ ∃ a, p.Runs m log a m' ∧ b = f a := by
  simp only [runs_bind, runs_pure]
  constructor
  · rintro ⟨log₁, a, m₁, _, h, ⟨rfl, rfl, rfl⟩, rfl⟩
    exact ⟨a, by simpa using h, rfl⟩
  · rintro ⟨a, h, rfl⟩
    exact ⟨log, a, m', [], h, ⟨rfl, rfl, rfl⟩, by simp⟩

/-- What a program comes to depends on what is exchanged only, and so does where it ends. -/
lemma Runs.unique {p : Program α} {n : Memory} {rest log' rest' : Log} (h : p.Runs m log a m')
    (h' : p.Runs m log' b n) (eq : log ++ rest = log' ++ rest') : log' = log ∧ b = a ∧ n = m' := by
  induction h generalizing log' with
  | done => exact runs_done.mp h'
  | ask r _ ih =>
    obtain ⟨r', later, rfl, hr'⟩ := runs_ask.mp h'
    obtain ⟨same, tails⟩ := List.cons.inj eq
    cases same
    obtain ⟨hlog, hresult⟩ := ih hr' tails
    exact ⟨congrArg _ hlog, hresult⟩
  | remember _ ih => exact ih (runs_remember.mp h') eq

/-! ### Programs that may fail -/

/-- Two steps in turn come to a result if both do. -/
lemma bind_eq_ok {e : Except ε α} {f : α → Except ε β} {b : β} :
    e.bind f = .ok b ↔ ∃ a, e = .ok a ∧ f a = .ok b := by
  cases e <;> simp [Except.bind]

/-- A run of two programs in turn, the first of which may fail, either fails with the first or goes on
with the second. -/
lemma runs_except_bind {x : ExceptT ε Program α} {f : α → ExceptT ε Program β} {r : Except ε β} :
    (x >>= f).run.Runs m log r m' ↔
      (∃ log₁ a m₁ log₂, x.run.Runs m log₁ (.ok a) m₁ ∧ (f a).run.Runs m₁ log₂ r m' ∧
        log = log₁ ++ log₂) ∨
      ∃ e, x.run.Runs m log (.error e) m' ∧ r = .error e := by
  rw [ExceptT.run_bind, runs_bind]
  constructor
  · rintro ⟨log₁, out, m₁, log₂, h₁, h₂, rfl⟩
    cases out with
    | ok a => exact .inl ⟨log₁, a, m₁, log₂, h₁, h₂, rfl⟩
    | error e =>
      obtain ⟨rfl, rfl, rfl⟩ := runs_pure.mp h₂
      exact .inr ⟨e, by simpa using h₁, rfl⟩
  · rintro (⟨log₁, a, m₁, log₂, h₁, h₂, rfl⟩ | ⟨e, h, rfl⟩)
    · exact ⟨log₁, .ok a, m₁, log₂, h₁, h₂, rfl⟩
    · exact ⟨log, .error e, m', [], h, runs_pure.mpr ⟨rfl, rfl, rfl⟩, by simp⟩

@[simp] lemma runs_except_pure {r : Except ε α} :
    (pure a : ExceptT ε Program α).run.Runs m log r m' ↔ log = [] ∧ r = .ok a ∧ m' = m :=
  runs_done

@[simp] lemma runs_except_throw {e : ε} {r : Except ε α} :
    (throw e : ExceptT ε Program α).run.Runs m log r m' ↔ log = [] ∧ r = .error e ∧ m' = m :=
  runs_done

@[simp] lemma runs_except_lift {p : Program α} {r : Except ε α} :
    (ExceptT.lift p : ExceptT ε Program α).run.Runs m log r m' ↔
      ∃ a, p.Runs m log a m' ∧ r = .ok a := by
  rw [ExceptT.run_lift, ← bind_pure_comp]
  exact runs_bind_pure

/-! ### Worlds -/

/-- Someone who answers as a world does that knows what was exchanged before, and who keeps the log. -/
def answering (world : Log → (q : Query) → q.Reply) (q : Query) : StateM Log q.Reply := fun past =>
  (world past q, past ++ [⟨q, world past q⟩])

instance (q : Query) : Inhabited q.Reply :=
  match q with
  | .fetch _ => ⟨Http.Outcome.refused⟩
  | .findDocker | .create _ | .store _ _ => ⟨Except.ok ()⟩
  | .docker _ | .load _ | .input => ⟨Except.error ""⟩
  | .launch _ | .attach _ => ⟨Except.error (.provision "")⟩
  | .remove _ => ⟨Except.ok ()⟩
  | .lookUp _ | .environment _ | .settingsHome => ⟨none⟩
  | .pause _ | .print _ | .complain _ => ⟨()⟩
  | .clock => ⟨(0 : Nat)⟩
  | .draw => ⟨(0 : UInt32)⟩
  | .hasFile _ => ⟨false⟩

lemma run_answering_done (world : Log → (q : Query) → q.Reply) (a : α) (past : Log) :
    (done a).run (answering world) m past = ((a, m), past) := rfl

lemma run_answering_ask (world : Log → (q : Query) → q.Reply) (q : Query)
    (next : q.Reply → Program α) (past : Log) :
    (ask q next).run (answering world) m past =
      (next (world past q)).run (answering world) m (past ++ [⟨q, world past q⟩]) := rfl

lemma run_answering_remember (world : Log → (q : Query) → q.Reply) (s : Memory.Step)
    (next : s.Result → Program α) (past : Log) :
    (remember s next).run (answering world) m past =
      (next (s.apply m).1).run (answering world) (s.apply m).2 past := rfl

/-- Two programs in turn are run in turn, with the log of the first as the past of the second. -/
lemma run_answering_bind (world : Log → (q : Query) → q.Reply) (p : Program α)
    (f : α → Program β) (past : Log) :
    (p >>= f).run (answering world) m past =
      (f (p.run (answering world) m past).1.1).run (answering world)
        (p.run (answering world) m past).1.2 (p.run (answering world) m past).2 := by
  change (p.bind f).run (answering world) m past = _
  induction p generalizing m past with
  | done a => rfl
  | ask q next ih => exact ih (world past q) (past ++ [⟨q, world past q⟩])
  | remember s next ih => exact ih (s.apply m).1 past

/-- Running a program with any world is a run. -/
lemma runs_run (world : Log → (q : Query) → q.Reply) (p : Program α) (m : Memory) (past : Log) :
    ∃ log a m', p.run (answering world) m past = ((a, m'), past ++ log) ∧ p.Runs m log a m' := by
  induction p generalizing m past with
  | done a => exact ⟨[], a, m, by rw [run_answering_done, List.append_nil], .done a m⟩
  | ask q next ih =>
    obtain ⟨log, a, m', h, hruns⟩ := ih (world past q) m (past ++ [⟨q, world past q⟩])
    exact ⟨_, a, m', by simpa [run_answering_ask] using h, .ask _ hruns⟩
  | remember s next ih =>
    obtain ⟨log, a, m', h, hruns⟩ := ih (s.apply m).1 (s.apply m).2 past
    exact ⟨log, a, m', h, .remember hruns⟩

/-- What a program exchanges with a world is one of its runs. -/
lemma runs_answering (world : Log → (q : Query) → q.Reply) (p : Program α) (m : Memory) :
    p.Runs m (p.run (answering world) m []).2 (p.run (answering world) m []).1.1
      (p.run (answering world) m []).1.2 := by
  obtain ⟨log, a, m', h, run⟩ := runs_run world p m []
  rw [h]
  exact run

/-- The replies of a log are the world's, after what was exchanged before. -/
def Follows (world : Log → (q : Query) → q.Reply) : Log → Log → Prop
  | _, [] => True
  | past, x :: rest => x.reply = world past x.query ∧ Follows world (past ++ [x]) rest

lemma follows_append {world : Log → (q : Query) → q.Reply} {past log' : Log} :
    Follows world past (log ++ log') ↔
      Follows world past log ∧ Follows world (past ++ log) log' := by
  induction log generalizing past with
  | nil => simp [Follows]
  | cons x rest ih => simp [Follows, ih, and_assoc]

/-- The replies to a program that is run with a world are the world's. -/
lemma follows_run (world : Log → (q : Query) → q.Reply) (p : Program α) (m : Memory) (past : Log) :
    ∃ log, (p.run (answering world) m past).2 = past ++ log ∧ Follows world past log := by
  induction p generalizing m past with
  | done a => exact ⟨[], (List.append_nil past).symm, trivial⟩
  | ask q next ih =>
    obtain ⟨log, h, follows⟩ := ih (world past q) m (past ++ [⟨q, world past q⟩])
    exact ⟨⟨q, world past q⟩ :: log, by simpa [run_answering_ask] using h, rfl, follows⟩
  | remember s next ih => exact ih (s.apply m).1 (s.apply m).2 past

/-- A program is run with a world by one of its runs in which the replies are the world's. -/
lemma Runs.run_answering {world : Log → (q : Query) → q.Reply} {p : Program α} {past : Log}
    (h : p.Runs m log a m') (follows : Follows world past log) :
    p.run (answering world) m past = ((a, m'), past ++ log) := by
  induction h generalizing past with
  | done a m => rw [run_answering_done, List.append_nil]
  | ask r _ ih =>
    obtain ⟨reply, follows⟩ := follows
    dsimp only at reply
    subst reply
    rw [run_answering_ask, ih follows, List.append_assoc, List.singleton_append]
  | remember _ ih => exact ih follows

/-- What a program comes to with a world is what it comes to in a run whose replies are the world's. -/
lemma run_answering_eq_iff {world : Log → (q : Query) → q.Reply} {p : Program α} {past : Log} :
    p.run (answering world) m past = ((a, m'), past ++ log) ↔
      p.Runs m log a m' ∧ Follows world past log := by
  constructor
  · intro h
    obtain ⟨log₁, a₁, m₁, heq, hruns⟩ := runs_run world p m past
    obtain ⟨log₂, heq', follows⟩ := follows_run world p m past
    rw [h] at heq heq'
    obtain ⟨hresult, hlog⟩ := Prod.mk.inj heq
    obtain ⟨rfl, rfl⟩ := Prod.mk.inj hresult
    obtain rfl := List.append_cancel_left hlog
    obtain rfl := List.append_cancel_left heq'
    exact ⟨hruns, follows⟩
  · rintro ⟨h, follows⟩
    exact h.run_answering follows

/-- All replies are the world's. -/
lemma reply_of_mem_run {world : Log → (q : Query) → q.Reply} {p : Program α} {past : Log}
    {x : Exchange} (h : x ∈ (p.run (answering world) m past).2) :
    x ∈ past ∨ ∃ before, x.reply = world before x.query := by
  induction p generalizing m past with
  | done a => exact .inl h
  | ask q next ih =>
    rcases ih (world past q) h with h | h
    · rcases List.mem_append.mp h with h | h
      · exact .inl h
      · cases List.mem_singleton.mp h
        exact .inr ⟨past, rfl⟩
    · exact .inr h
  | remember s next ih => exact ih (s.apply m).1 h

end Program

end Sandboxes
