import Sandboxes.Proofs.Docker.Cleanup
import Sandboxes.Proofs.Handle.Action
import Sandboxes.Proofs.Handle.Ending
import Sandboxes.Proofs.Memory
import Sandboxes.Proofs.Profile
import Sandboxes.Proofs.Program.Interleaving

/-!
# Lifecycle of a handle

Whatever is done with a handle, in whatever order and at the same time, its container is removed at
most once. Only a thread that destroys the handle may remove it, the one that closes the handle first;
every other thread is gentle from then on: it neither closes the handle nor removes anything. What is
started on a closed handle ends at once.
-/

namespace Sandboxes

open Program Control

/-- Whether the question asks for a container to be removed. -/
def Query.removes : Query → Bool
  | .remove _ => true
  | .docker r => r.deletes
  | _ => false

lemma Query.IsSandbox.not_removes {q : Query} (h : q.IsSandbox) : q.removes = false := by
  cases q <;> first | rfl | exact h.elim

lemma Query.IsQuiet.not_removes {q : Query} (h : q.IsQuiet) : q.removes = false := by
  cases q with
  | docker r => exact h.2
  | remove name => exact h.elim
  | _ => rfl

/-- Whether the step only asks if a handle is closed. -/
def Memory.Step.IsLook : Memory.Step → Prop
  | .isClosed _ => True
  | _ => False

namespace Handle

/-! ### Jobs -/

/-- Anything that can be done with a handle. -/
inductive Job
  | act (a : Action)
  | verifyReady
  | ensureReady
  | browserVersion
  | browserWebsocket
  | destroy
  deriving DecidableEq, Repr

/-- What a job gives. -/
inductive Outcome
  | answer (r : Action.Answer)
  | readiness (r : Except Failure Unit)
  | version (r : Except (List String) BrowserVersion)
  | websocket (r : Except (List String) String)
  | destroyed (done : Bool)

/-- Does a job. -/
def start (h : Handle) : Job → Program Outcome
  | .act a => do return .answer (← h.act a)
  | .verifyReady => do return .readiness (← h.verifyReady)
  | .ensureReady => do return .readiness (← h.ensureReady)
  | .browserVersion => do return .version (← h.browser.version)
  | .browserWebsocket => do return .websocket (← h.browser.websocket)
  | .destroy => do return .destroyed (← h.destroy)

section Confined

variable {h : Handle}

lemma confined_actOpen (a : Action) : (h.actOpen a).Confined Query.IsSandbox fun _ => False := by
  cases a with
  | operate o => exact Interface.confined_call.bind_pure
  | download path => exact Interface.confined_download.bind_pure

lemma confined_version (b : Browser) : b.version.Confined Query.IsSandbox fun _ => False := by
  refine Confined.bind confined_exchange fun out => ?_
  cases out with
  | error fault => exact .done _
  | ok answer =>
    dsimp only
    split
    · exact .done _
    · split <;> exact .done _

lemma confined_act (a : Action) : (h.act a).Confined Query.IsSandbox Memory.Step.IsLook := by
  rw [act_eq]
  refine .remember trivial fun closed => ?_
  cases closed with
  | true => exact .done _
  | false => exact (confined_actOpen a).mono (fun _ h => h) fun _ => False.elim

/-- Every job but destroying talks to the sandbox only, and leaves the memory as it is. -/
lemma confined_start {j : Job} (hj : j ≠ .destroy) :
    (h.start j).Confined Query.IsSandbox Memory.Step.IsLook := by
  have still {α : Type} {p : Program α} (hp : p.Confined Query.IsSandbox fun _ => False) :
      p.Confined Query.IsSandbox Memory.Step.IsLook :=
    hp.mono (fun _ h => h) fun _ => False.elim
  cases j with
  | act a => exact (confined_act a).bind_pure
  | verifyReady => exact (still confined_verifyReady).bind_pure
  | ensureReady => exact (still confined_ensureReady).bind_pure
  | browserVersion => exact (still (confined_version h.browser)).bind_pure
  | browserWebsocket => exact (still (confined_version h.browser)).bind_pure.bind_pure
  | destroy => exact absurd rfl hj

end Confined

/-! ### Gentle programs -/

section Gentle

variable {α β : Type} {n : Nat}

/-- The program removes no container, and does not close the handle of that number. -/
structure Gentle (n : Nat) (p : Program α) : Prop where
  confined : p.Confined (·.removes = false) (· ≠ .close n)

lemma gentle_of_quiet {p : Program α} (h : p.Confined Query.IsQuiet fun _ => False) :
    Gentle n p :=
  ⟨h.mono (fun _ => Query.IsQuiet.not_removes) fun _ => False.elim⟩

/-- Every job but destroying is gentle. -/
lemma gentle_start {h : Handle} {j : Job} (hj : j ≠ .destroy) : Gentle n (h.start j) := by
  refine ⟨(confined_start hj).mono (fun _ => Query.IsSandbox.not_removes) ?_⟩
  rintro _ look rfl
  exact look

end Gentle

/-! ### Destroying -/

variable {h : Handle} {m₀ : Memory}

/-- The question by which a container is removed, where there is one. -/
def removal? (name : String) : Provisioner → Option Query
  | .delegated => some (.remove name)
  | .docker => some (.docker (.removal name))
  | .fixed _ => none

/-- The question removes the container that goes with the handle. -/
def Removes (h : Handle) (q : Query) : Prop :=
  ∃ name, h.teardown = some name ∧ removal? name h.provisioner = some q

lemma Removes.removes {q : Query} (hq : h.Removes q) : q.removes = true := by
  obtain ⟨name, -, hq⟩ := hq
  cases hp : h.provisioner with
  | delegated =>
    rw [hp] at hq
    cases hq
    rfl
  | docker =>
    rw [hp] at hq
    cases hq
    rfl
  | fixed address =>
    rw [hp] at hq
    cases hq

/-- The program may still remove the container that goes with the handle, that many times. -/
structure MayRemove {α : Type} (h : Handle) (p : Program α) (times : Nat) : Prop where
  spends : p.Spends h.Removes (·.removes = false) (· ≠ .close h.number) times

lemma spends_remove {R : Query → Prop} {name : String} (removes : R (.docker (.removal name))) :
    (Docker.remove name).Spends R (·.removes = false) (· ≠ .close h.number) 1 := by
  refine Spends.bind_confined ?_ fun _ => .done _
  refine (spends_query removes).bind_confined fun reply => ?_
  cases reply with
  | error reason => exact .done _
  | ok answer =>
    dsimp only
    split <;> exact .done _

/-- What goes with a handle is removed at most once. -/
lemma mayRemove_tearDown : h.MayRemove h.tearDown 1 := by
  unfold tearDown
  cases ht : h.teardown with
  | none => exact ⟨.done _ 1⟩
  | some name =>
    refine ⟨Spends.bind_confined ?_ fun _ => .done _⟩
    cases hp : h.provisioner with
    | delegated => exact spends_query ⟨name, ht, by rw [hp]; rfl⟩
    | fixed address => exact .done _ 1
    | docker =>
      have connect : Gentle h.number Docker.connect := gentle_of_quiet (Docker.confined_connect trivial)
      refine connect.confined.bind_spends fun out => ?_
      cases out with
      | error failure => exact .done _ 1
      | ok _ =>
        have remove : (Docker.remove name).Spends h.Removes (·.removes = false)
            (· ≠ .close h.number) 1 := spends_remove ⟨name, ht, by rw [hp]; rfl⟩
        refine Spends.bind_confined (remove.bind_confined fun _ => .done _) fun out => ?_
        rcases out with failure | (fault | _)
        · exact .done _
        · dsimp only [ExceptT.bindCont]
          split <;> exact .done _
        · exact .done _

/-! ### Interleavings -/

/-- A removal, with the thread that asks for it. -/
def removing? : Event Job → Option (Nat × Query)
  | .asks i x => if x.query.removes then some (i, x.query) else none
  | _ => none

/-- All removals that are asked for, in order. -/
def removals (events : List (Event Job)) : List (Nat × Query) :=
  events.filterMap removing?

/-- The thread that closes the handle. -/
def closes? (h : Handle) : Event Job → Option Nat
  | .remembers i (.close n) => if n = h.number then some i else none
  | _ => none

/-- The thread that closes the handle first. -/
def closer? (h : Handle) (events : List (Event Job)) : Option Nat :=
  events.findSome? h.closes?

variable {events : List (Event Job)} {e : Event Job}

lemma removals_snoc_of_none (he : removing? e = none) : removals (events ++ [e]) = removals events := by
  simp [removals, he]

lemma closer?_snoc_of_none (he : h.closes? e = none) :
    h.closer? (events ++ [e]) = h.closer? events := by
  simp [closer?, List.findSome?_append, he]

/-- The thread closed the handle, and it was open by then. -/
def Winner (h : Handle) (m₀ : Memory) (events : List (Event Job)) (i : Nat) : Prop :=
  h.number ∉ m₀.closed ∧ h.closer? events = some i

/-- How far a thread has come: it is gentle, or it is about to destroy the handle, or it has closed
the handle first. In the latter case removals so far and removals to come are one at most. -/
inductive Phase (h : Handle) (m₀ : Memory) (events : List (Event Job)) (i : Nat) :
    Thread Job Outcome → Prop
  | gentle {t : Thread Job Outcome} (gentle : Gentle h.number t.rest) : Phase h m₀ events i t
  | fresh : Phase h m₀ events i ⟨.destroy, h.start .destroy⟩
  | winner {t : Thread Job Outcome} {times : Nat} (won : h.Winner m₀ events i)
      (may : h.MayRemove t.rest times) (le : (removals events).length + times ≤ 1) :
      Phase h m₀ events i t

/-- What holds while things are done with a handle. -/
structure Lifecycle (h : Handle) (m₀ : Memory) (events : List (Event Job))
    (s : System Job Outcome) : Prop where
  closed : h.number ∈ s.memory.closed ↔ h.number ∈ m₀.closed ∨ (h.closer? events).isSome
  phases : ∀ i t, s.threads[i]? = some t → h.Phase m₀ events i t
  owned : ∀ x ∈ removals events, h.Winner m₀ events x.1 ∧ h.Removes x.2
  once : (removals events).length ≤ 1
  winner : ∀ i, h.closer? events = some i → ∃ rest, s.threads[i]? = some ⟨.destroy, rest⟩

/-! ### Steps of threads -/

lemma start_destroy : h.start .destroy = .remember (.close h.number) fun closed =>
    if closed then pure (.destroyed true)
    else .remember (.forget h.variant h.id) fun _ =>
      h.tearDown >>= fun done => pure (.destroyed done) := by
  simp only [start, destroy_eq]
  refine congrArg (Program.remember _) (funext fun closed => ?_)
  cases closed <;> rfl

variable {s s' : System Job Outcome} {i : Nat} {t : Thread Job Outcome}

/-- A thread that asks something else than a removal stays in its phase. -/
lemma Phase.ask {q : Query} {next : q.Reply → Program Outcome} {job : Job}
    (phase : h.Phase m₀ events i ⟨job, .ask q next⟩) (other : q.removes = false) (r : q.Reply) :
    h.Phase m₀ events i ⟨job, next r⟩ := by
  generalize ht : (⟨job, .ask q next⟩ : Thread Job Outcome) = t at phase
  cases phase with
  | gentle gentle =>
    subst t
    exact .gentle ⟨(confined_ask.mp gentle.confined).2 r⟩
  | fresh =>
    rw [start_destroy] at ht
    cases ht
  | winner won may le =>
    subst t
    rcases spends_ask.mp may.spends with ⟨-, rest⟩ | ⟨k, -, removes, -⟩
    · exact .winner won ⟨rest r⟩ le
    · simp [removes.removes] at other

/-- Only the thread that has closed the handle asks for a removal, and none was asked for before. -/
lemma Phase.removal {q : Query} {next : q.Reply → Program Outcome} {job : Job}
    (phase : h.Phase m₀ events i ⟨job, .ask q next⟩) (removes : q.removes = true) :
    h.Winner m₀ events i ∧ h.Removes q ∧ removals events = [] ∧ ∀ r, h.MayRemove (next r) 0 := by
  generalize ht : (⟨job, .ask q next⟩ : Thread Job Outcome) = t at phase
  cases phase with
  | gentle gentle =>
    subst t
    simp [(confined_ask.mp gentle.confined).1] at removes
  | fresh =>
    rw [start_destroy] at ht
    cases ht
  | winner won may le =>
    subst t
    rcases spends_ask.mp may.spends with ⟨asks, -⟩ | ⟨k, rfl, owned, rest⟩
    · simp [asks] at removes
    · obtain rfl : k = 0 := by omega
      exact ⟨won, owned, List.length_eq_zero_iff.mp (by omega), fun r => ⟨rest r⟩⟩

/-- A thread that takes another step than closing the handle stays in its phase. -/
lemma Phase.remember {step : Memory.Step} {next : step.Result → Program Outcome} {job : Job}
    (phase : h.Phase m₀ events i ⟨job, .remember step next⟩) (other : step ≠ .close h.number)
    (r : step.Result) : h.Phase m₀ events i ⟨job, next r⟩ := by
  generalize ht : (⟨job, .remember step next⟩ : Thread Job Outcome) = t at phase
  cases phase with
  | gentle gentle =>
    subst t
    exact .gentle ⟨(confined_remember.mp gentle.confined).2 r⟩
  | fresh =>
    rw [start_destroy] at ht
    cases ht
    exact absurd rfl other
  | winner won may le =>
    subst t
    exact .winner won ⟨(spends_remember.mp may.spends).2 r⟩ le

/-- Only a thread that is about to destroy the handle closes it. -/
lemma Phase.close {next : Bool → Program Outcome} {job : Job}
    (phase : h.Phase m₀ events i ⟨job, .remember (.close h.number) next⟩) :
    job = .destroy ∧ (Gentle h.number (next true)) ∧ h.MayRemove (next false) 1 := by
  generalize ht : (⟨job, .remember (.close h.number) next⟩ : Thread Job Outcome) = t at phase
  cases phase with
  | gentle gentle =>
    subst t
    exact absurd rfl (confined_remember.mp gentle.confined).1
  | fresh =>
    rw [start_destroy] at ht
    cases ht
    refine ⟨rfl, ⟨.done _⟩, ⟨.remember (by simp) fun _ => ?_⟩⟩
    exact mayRemove_tearDown.spends.bind_confined fun _ => .done _
  | winner won may le =>
    subst t
    exact absurd rfl (spends_remember.mp may.spends).1

/-! ### Steps of the system -/

lemma Phase.mono {later : List (Event Job)} (phase : h.Phase m₀ events i t)
    (winner : h.Winner m₀ events i → h.Winner m₀ later i)
    (length : (removals later).length = (removals events).length) : h.Phase m₀ later i t := by
  cases phase with
  | gentle gentle => exact .gentle gentle
  | fresh => exact .fresh
  | winner won may le => exact .winner (winner won) may (by omega)

/-- An event that neither closes the handle nor asks for a removal. -/
lemma Lifecycle.move_quiet (inv : h.Lifecycle m₀ events s) (closes : h.closes? e = none)
    (removes : removing? e = none)
    (closed : h.number ∈ s'.memory.closed ↔ h.number ∈ s.memory.closed)
    (phases : ∀ i t, s'.threads[i]? = some t → h.Phase m₀ events i t)
    (jobs : ∀ (i : Nat) (t : Thread Job Outcome), s.threads[i]? = some t →
      ∃ rest, s'.threads[i]? = some ⟨t.job, rest⟩) :
    h.Lifecycle m₀ (events ++ [e]) s' where
  closed := by rw [closed, inv.closed, closer?_snoc_of_none closes]
  phases i t hi := by
    refine (phases i t hi).mono (fun won => ?_) (by rw [removals_snoc_of_none removes])
    rw [Winner, closer?_snoc_of_none closes]
    exact won
  owned x hx := by
    rw [removals_snoc_of_none removes] at hx
    rw [Winner, closer?_snoc_of_none closes]
    exact inv.owned x hx
  once := by
    rw [removals_snoc_of_none removes]
    exact inv.once
  winner i hi := by
    rw [closer?_snoc_of_none closes] at hi
    obtain ⟨rest, ht⟩ := inv.winner i hi
    exact jobs i _ ht

/-- The thread that has closed the handle asks for the removal. -/
lemma Lifecycle.move_removal {m : Memory} {ts : List (Thread Job Outcome)} {k : Nat} {job : Job}
    {q : Query} {next : q.Reply → Program Outcome} (inv : h.Lifecycle m₀ events ⟨m, ts⟩)
    (at_k : ts[k]? = some ⟨job, .ask q next⟩) (removes : q.removes = true) (r : q.Reply) :
    h.Lifecycle m₀ (events ++ [.asks k ⟨q, r⟩]) ⟨m, ts.set k ⟨job, next r⟩⟩ := by
  obtain ⟨won, owned, none, rest⟩ := (inv.phases k _ at_k).removal removes
  have hk : k < ts.length := (List.getElem?_eq_some_iff.mp at_k).1
  have first : removals (events ++ [.asks k ⟨q, r⟩]) = [(k, q)] := by
    have head : removing? (.asks k ⟨q, r⟩) = some (k, q) := by simp [removing?, removes]
    simp only [removals, List.filterMap_append] at none ⊢
    simp [none, head]
  have closer : h.closer? (events ++ [.asks k ⟨q, r⟩]) = h.closer? events :=
    closer?_snoc_of_none rfl
  refine ⟨by rw [closer]; exact inv.closed, fun i t hi => ?_, fun x hx => ?_, by simp [first],
    fun i hi => ?_⟩
  · by_cases hik : k = i
    · subst hik
      cases (List.getElem?_set_self hk).symm.trans hi
      exact .winner (by rw [Winner, closer]; exact won) (rest r) (by simp [first])
    · rw [List.getElem?_set_ne hik] at hi
      cases inv.phases i t hi with
      | gentle gentle => exact .gentle gentle
      | fresh => exact .fresh
      | winner other may le => exact absurd (Option.some.inj (won.2.symm.trans other.2)) hik
  · rw [first, List.mem_singleton] at hx
    subst hx
    rw [Winner, closer]
    exact ⟨won, owned⟩
  · rw [closer] at hi
    obtain ⟨before, hbefore⟩ := inv.winner i hi
    have move : Moves h.start ⟨m, ts⟩ (.asks k ⟨q, r⟩) ⟨m, ts.set k ⟨job, next r⟩⟩ := .ask at_k r
    exact move.exists_rest hbefore

lemma closer?_snoc_close {k : Nat} :
    h.closer? (events ++ [.remembers k (.close h.number)]) = (h.closer? events).or (some k) := by
  simp [closer?, List.findSome?_append, closes?]

/-- A thread that is about to destroy the handle closes it, and is in charge of the removal if it is
the first one to do so. -/
lemma Lifecycle.move_close {m : Memory} {ts : List (Thread Job Outcome)} {k : Nat} {job : Job}
    {next : Bool → Program Outcome} (inv : h.Lifecycle m₀ events ⟨m, ts⟩)
    (at_k : ts[k]? = some ⟨job, .remember (.close h.number) next⟩) :
    h.Lifecycle m₀ (events ++ [.remembers k (.close h.number)])
      ⟨((Memory.Step.close h.number).apply m).2,
        ts.set k ⟨job, next ((Memory.Step.close h.number).apply m).1⟩⟩ := by
  have move : Moves h.start ⟨m, ts⟩ (.remembers k (.close h.number)) _ := .remember at_k
  obtain ⟨rfl, gentle, may⟩ := (inv.phases k _ at_k).close
  have hk : k < ts.length := (List.getElem?_eq_some_iff.mp at_k).1
  have same : removals (events ++ [.remembers k (.close h.number)]) = removals events :=
    removals_snoc_of_none rfl
  have won : ∀ i, h.Winner m₀ events i →
      h.Winner m₀ (events ++ [.remembers k (.close h.number)]) i := by
    rintro i ⟨opened, hi⟩
    exact ⟨opened, by rw [closer?_snoc_close, hi]; rfl⟩
  refine ⟨by simp [closer?_snoc_close], fun i t hi => ?_, fun x hx => ?_, by rw [same]; exact inv.once,
    fun i hi => ?_⟩
  · by_cases hik : k = i
    · subst hik
      cases (List.getElem?_set_self hk).symm.trans hi
      by_cases closed : h.number ∈ m.closed
      · refine .gentle ?_
        simpa [Memory.Step.apply, closed] using gentle
      · -- nobody has closed the handle before, so nothing was removed
        have opened := mt inv.closed.mpr closed
        rw [not_or, Option.not_isSome_iff_eq_none] at opened
        have nothing : removals events = [] := by
          refine List.eq_nil_iff_forall_not_mem.mpr fun x hx => ?_
          have := (inv.owned x hx).1.2
          rw [opened.2] at this
          cases this
        have last : h.MayRemove (next ((Memory.Step.close h.number).apply m).1) 1 := by
          simpa [Memory.Step.apply, closed] using may
        exact .winner ⟨opened.1, by rw [closer?_snoc_close, opened.2]; rfl⟩ last
          (by simp [same, nothing])
    · rw [List.getElem?_set_ne hik] at hi
      exact (inv.phases i t hi).mono (won i) (by rw [same])
  · rw [same] at hx
    exact ⟨won _ (inv.owned x hx).1, (inv.owned x hx).2⟩
  · rw [closer?_snoc_close] at hi
    cases hc : h.closer? events with
    | none =>
      rw [hc] at hi
      cases hi
      exact ⟨_, List.getElem?_set_self hk⟩
    | some j =>
      rw [hc] at hi
      cases hi
      obtain ⟨before, hbefore⟩ := inv.winner _ hc
      exact move.exists_rest hbefore

/-- Every event keeps what holds while things are done with a handle. -/
lemma Lifecycle.move (inv : h.Lifecycle m₀ events s) (move : Moves h.start s e s') :
    h.Lifecycle m₀ (events ++ [e]) s' := by
  have before := fun i (t : Thread Job Outcome) (hi : s'.threads[i]? = some t) => move.thread_cases hi
  have jobs := fun i (t : Thread Job Outcome) (hi : s.threads[i]? = some t) => move.exists_rest hi
  cases move with
  | start job =>
    refine inv.move_quiet rfl rfl Iff.rfl (fun i t hi => ?_) jobs
    obtain old | ⟨-, -, hrest⟩ | ⟨_, _, _, -, he, -⟩ | ⟨_, _, -, he, -⟩ := before i t hi
    · exact inv.phases i t old
    · obtain ⟨job, rest⟩ := t
      obtain rfl : rest = h.start job := hrest
      by_cases hj : job = .destroy
      · subst hj
        exact .fresh
      · exact .gentle (gentle_start hj)
    · cases he
    · cases he
  | @ask m ts k job q next at_k r =>
    cases removes : q.removes with
    | true => exact inv.move_removal at_k removes r
    | false =>
      refine inv.move_quiet rfl (by simp [removing?, removes]) Iff.rfl (fun i t hi => ?_) jobs
      obtain old | ⟨he, -, -⟩ | ⟨_, _, _, at_i, he, hrest⟩ | ⟨_, _, -, he, -⟩ := before i t hi
      · exact inv.phases i t old
      · cases he
      · cases he
        obtain ⟨job, rest⟩ := t
        cases hrest
        exact (inv.phases _ _ at_i).ask removes r
      · cases he
  | @remember m ts k job step next at_k =>
    by_cases closes : step = .close h.number
    · subst closes
      exact inv.move_close at_k
    · have other : h.closes? (.remembers k step) = none := by
        cases step with
        | close n =>
          have ne : n ≠ h.number := fun hn => closes (hn ▸ rfl)
          simp [closes?, ne]
        | _ => rfl
      refine inv.move_quiet other rfl (Memory.Step.mem_closed_apply closes) (fun i t hi => ?_) jobs
      obtain old | ⟨he, -, -⟩ | ⟨_, _, _, -, he, -⟩ | ⟨_, _, at_i, he, hrest⟩ := before i t hi
      · exact inv.phases i t old
      · cases he
      · cases he
      · cases he
        obtain ⟨job, rest⟩ := t
        cases hrest
        exact (inv.phases _ _ at_i).remember closes _

lemma lifecycle_of_reaches {m : Memory} (run : Reaches h.start ⟨m, []⟩ events s) :
    h.Lifecycle m events s := by
  induction run with
  | refl => exact ⟨by simp [closer?], by simp, by simp [removals], by simp [removals], by simp [closer?]⟩
  | snoc _ move ih => exact ih.move move

/-! ### After the end -/

lemma start_act (a : Action) : h.start (.act a) = .remember (.isClosed h.number) fun closed =>
    if closed then .done (.answer (h.closedAnswer a))
    else h.actOpen a >>= fun r => pure (.answer r) := by
  simp only [start, act_eq]
  refine congrArg (Program.remember _) (funext fun closed => ?_)
  cases closed <;> rfl

/-- What holds once the handle is closed, of the threads from the `n`-th one on: an action has not
begun, or has ended at once. -/
structure Late (h : Handle) (n : Nat) (events : List (Event Job)) (s : System Job Outcome) :
    Prop where
  closed : h.number ∈ s.memory.closed
  started : n ≤ s.threads.length
  ended : ∀ i a rest, n ≤ i → s.threads[i]? = some ⟨.act a, rest⟩ →
    rest = h.start (.act a) ∨ rest = .done (.answer (h.closedAnswer a))
  silent : ∀ i x, .asks i x ∈ events → n ≤ i →
    ∃ t, s.threads[i]? = some t ∧ ∀ a, t.job ≠ .act a

lemma Late.move {n : Nat} (inv : h.Late n events s) (move : Moves h.start s e s') :
    h.Late n (events ++ [e]) s' where
  closed := by
    cases move with
    | start job => exact inv.closed
    | ask at_i r => exact inv.closed
    | @remember m ts k job step next at_k =>
      by_cases hs : step = .close h.number
      · simp [hs]
      · exact (Memory.Step.mem_closed_apply hs).mpr inv.closed
  started := Nat.le_trans inv.started move.length_le
  ended i a rest hn hi := by
    obtain old | ⟨-, -, hrest⟩ | ⟨q, next, r, at_i, -, -⟩ | ⟨step, next, at_i, -, hrest⟩ :=
      move.thread_cases hi
    · exact inv.ended i a rest hn old
    · exact .inl hrest
    · rcases inv.ended i a _ hn at_i with h | h
      · rw [start_act] at h
        cases h
      · cases h
    · rcases inv.ended i a _ hn at_i with h | h
      · rw [start_act] at h
        cases h
        right
        simpa [Memory.Step.apply, inv.closed] using hrest
      · cases h
  silent i x hx hn := by
    rcases List.mem_append.mp hx with hx | hx
    · obtain ⟨t, ht, hjob⟩ := inv.silent i x hx hn
      obtain ⟨rest, hrest⟩ := move.exists_rest ht
      exact ⟨_, hrest, hjob⟩
    · rw [List.mem_singleton] at hx
      subst hx
      cases move with
      | @ask m ts k job q next at_i r =>
        have hi := (List.getElem?_eq_some_iff.mp at_i).1
        refine ⟨_, List.getElem?_set_self hi, fun a ha => ?_⟩
        obtain rfl : job = .act a := ha
        rcases inv.ended i a _ hn at_i with h | h
        · rw [start_act] at h
          cases h
        · cases h

lemma late_of_reaches (closed : h.number ∈ s.memory.closed)
    (run : Reaches h.start s events s') : h.Late s.threads.length events s' := by
  induction run with
  | refl =>
    refine ⟨closed, Nat.le_refl _, fun i a rest hn hi => ?_, by simp⟩
    exact absurd (List.getElem?_eq_some_iff.mp hi).1 (Nat.not_lt.mpr hn)
  | snoc _ move ih => exact ih.move move

/-! ### Whole runs -/

/-- The answer is a failure whose words name the sandbox. -/
def FailsNaming (id : String) : Action.Answer → Prop
  | .envelope e => e.success = false ∧ ∃ before after, e.message = some (before ++ id ++ after)
  | .file content => ∃ before after, content = .error (.download (before ++ id ++ after))

lemma failsNaming_closedAnswer (a : Action) : FailsNaming h.id (h.closedAnswer a) := by
  cases a with
  | operate o => exact ⟨rfl, _, _, rfl⟩
  | download path => exact ⟨_, _, rfl⟩

/-- A run in which an open handle is destroyed, and its container is removed. -/
lemma reaches_destroy {name : String} (delegated : h.provisioner = .delegated)
    (goes : h.teardown = some name) (opened : h.number ∉ m₀.closed) :
    Reaches h.start ⟨m₀, []⟩
      [.starts .destroy, .remembers 0 (.close h.number), .remembers 0 (.forget h.variant h.id),
        .asks 0 ⟨.remove name, Except.ok ()⟩]
      ⟨h.afterClose m₀, [⟨.destroy, .done (.destroyed true)⟩]⟩ := by
  let removing : Program Outcome := h.tearDown >>= fun done => pure (.destroyed done)
  let forgetting : Program Outcome := .remember (.forget h.variant h.id) fun _ => removing
  have asks : removing = .ask (.remove name) fun out => pure (.destroyed out.isOk) := by
    simp only [removing, tearDown, goes, delegated]
    rfl
  have start : Moves h.start ⟨m₀, []⟩ (.starts .destroy) ⟨m₀, [⟨.destroy, h.start .destroy⟩]⟩ :=
    .start Job.destroy
  have close : Moves h.start ⟨m₀, [⟨.destroy, h.start .destroy⟩]⟩ (.remembers 0 (.close h.number))
      ⟨((Memory.Step.close h.number).apply m₀).2, [⟨.destroy, forgetting⟩]⟩ := by
    have move : Moves h.start ⟨m₀, [⟨.destroy, h.start .destroy⟩]⟩ _ _ :=
      moves_remember_first start_destroy
    simpa [Memory.Step.apply, opened, forgetting, removing, -bind_pure_comp] using move
  have forget : Moves h.start ⟨((Memory.Step.close h.number).apply m₀).2, [⟨.destroy, forgetting⟩]⟩
      (.remembers 0 (.forget h.variant h.id)) ⟨h.afterClose m₀, [⟨.destroy, removing⟩]⟩ :=
    moves_remember_first rfl
  have remove : Moves h.start ⟨h.afterClose m₀, [⟨.destroy, removing⟩]⟩
      (.asks 0 ⟨.remove name, Except.ok ()⟩)
      ⟨h.afterClose m₀, [⟨.destroy, .done (.destroyed true)⟩]⟩ :=
    moves_ask_first asks (Except.ok ())
  exact (((Reaches.refl.snoc start).snoc close).snoc forget).snoc remove

/-- Let anything be done with a handle, at any time and in any order, any number of times. At most
once is a container asked to be removed, by the thread that was the first to close the handle, which
destroys it, and only the container of the endpoint, under the name that it has, if the profile owns
that name and the container is not managed elsewhere. Once the handle was closed, an action that is
started asks nothing, and ends with a failure that names the sandbox. -/
theorem removals_of_reaches (p : Profile) (provisioner : Provisioner) (e : Container.Endpoint)
    (number : Nat) (m : Memory) {events : List (Event Job)} {s : System Job Outcome}
    (run : Reaches (ofEndpoint p provisioner e number).start ⟨m, []⟩ events s) :
    let h := ofEndpoint p provisioner e number
    (removals events).length ≤ 1 ∧
    (∀ x ∈ removals events,
      h.closer? events = some x.1 ∧ (∃ rest, s.threads[x.1]? = some ⟨.destroy, rest⟩) ∧
      e.ownership ≠ .external ∧ ∃ name, e.name = some name ∧ p.owns name = true ∧
        removal? name provisioner = some x.2) ∧
    ((h.closer? events).isSome → ∀ later s', Reaches h.start s later s' →
      (∀ i x, .asks i x ∈ later → s.threads.length ≤ i →
        ∃ t, s'.threads[i]? = some t ∧ ∀ a, t.job ≠ .act a) ∧
      ∀ i a rest, s.threads.length ≤ i → s'.threads[i]? = some ⟨.act a, rest⟩ →
        rest = h.start (.act a) ∨
          rest = .done (.answer (h.closedAnswer a)) ∧ FailsNaming h.id (h.closedAnswer a)) := by
  intro h
  have life : h.Lifecycle m events s := lifecycle_of_reaches run
  refine ⟨life.once, fun x hx => ?_, fun closer later s' run' => ?_⟩
  · obtain ⟨⟨opened, first⟩, name, goes, asked⟩ := life.owned x hx
    obtain ⟨kept, named, owned⟩ := teardownOf_eq_some.mp goes
    exact ⟨first, life.winner _ first, kept, name, named, owned, asked⟩
  · have late := late_of_reaches (life.closed.mpr (.inr closer)) run'
    refine ⟨late.silent, fun i a rest hn hi => ?_⟩
    rcases late.ended i a rest hn hi with fresh | ended
    · exact .inl fresh
    · exact .inr ⟨ended, failsNaming_closedAnswer a⟩

/-- A handle is destroyed, and then a file is to be fetched with it. -/
theorem removals_of_destroy_then_download :
    let name := "aio-sandbox-0badc0de"
    let h := ofEndpoint (.aio .usual) .delegated ⟨some name, "10.0.0.7", .created⟩ 0
    let a : Action := .download "/etc/hosts"
    ∃ events s later s', Reaches h.start ⟨.empty 4 4, []⟩ events s ∧
      removals events = [(0, .remove name)] ∧ (removals events).length ≤ 1 ∧
      Reaches h.start s later s' ∧ ∃ rest, s'.threads[1]? = some ⟨.act a, rest⟩ ∧
        (rest = h.start (.act a) ∨
          rest = .done (.answer (h.closedAnswer a)) ∧ FailsNaming h.id (h.closedAnswer a)) := by
  intro name h a
  have owned : (Profile.aio .usual).owns name = true := by decide +kernel
  have goes : teardownOf (.aio .usual) ⟨some name, "10.0.0.7", .created⟩ = some name :=
    teardownOf_eq_some.mpr ⟨by simp, rfl, owned⟩
  have run : Reaches h.start ⟨.empty 4 4, []⟩ _ _ := reaches_destroy rfl goes List.not_mem_nil
  obtain ⟨once, -, late⟩ := removals_of_reaches (.aio .usual) .delegated
    ⟨some name, "10.0.0.7", .created⟩ 0 (.empty 4 4) run
  have begun : Moves h.start ⟨h.afterClose (.empty 4 4), [⟨.destroy, .done (.destroyed true)⟩]⟩
      (.starts (.act a)) _ := .start (Job.act a)
  have more := Reaches.refl.snoc begun
  obtain ⟨-, ended⟩ := late rfl _ _ more
  exact ⟨_, _, _, _, run, rfl, once, more, _, rfl, ended 1 a _ (Nat.le_refl 1) rfl⟩

end Handle

end Sandboxes
