import Sandboxes.Proofs.Handle.Ending
import Sandboxes.Proofs.Profile

/-!
# What destroying answers

A handle that holds a container is destroyed again and again. Only the first call has the container
removed, and its answer is whether that succeeded; every later call answers that nothing stands in the
way, even where the container is still there. `truthful_iff` says when all answers can be relied on.
-/

namespace Sandboxes

open Program

/-- The exchange is a removal of that container which succeeded. -/
def Provisioner.Removed (p : Provisioner) (name : String) (log : Log) : Prop :=
  ∃ m m', (p.remove name).Runs m log (.ok ()) m'

namespace Handle

/-- Calls to destroy a handle, one after the other, with what each exchanged and answered. In between
anything may happen, except that no handle is opened again. -/
inductive Destroys (h : Handle) : Memory → List (Log × Bool) → Prop
  | done (m : Memory) : Destroys h m []
  | call {m m₁ m₂ : Memory} {log : Log} {done : Bool} {cs : List (Log × Bool)}
      (run : h.destroy.Runs m log done m₁) (between : ∀ n ∈ m₁.closed, n ∈ m₂.closed)
      (rest : Destroys h m₂ cs) : Destroys h m ((log, done) :: cs)

/-- Whenever a call answered that nothing stands in the way, the container had been removed, by that
call or by one before it. -/
def Truthful (h : Handle) (name : String) (calls : List (Log × Bool)) : Prop :=
  ∀ before log after, calls = before ++ (log, true) :: after →
    ∃ call ∈ before ++ [(log, true)], h.provisioner.Removed name call.1

variable {h : Handle} {name : String} {m : Memory} {c : Log × Bool} {cs : List (Log × Bool)}

/-! ### The first call -/

lemma mem_closed_of_runs_destroy {log : Log} {done : Bool} {m' : Memory}
    (run : h.destroy.Runs m log done m') : h.number ∈ m'.closed := by
  by_cases closed : h.number ∈ m.closed
  · obtain ⟨-, -, rfl⟩ := (runs_destroy_closed closed).mp run
    simp
  · rw [runs_destroy_open closed] at run
    rw [confined_tearDown.memory_eq run]
    simp [afterClose]

/-- The first call tells what became of the removal. -/
lemma Destroys.removal (run : h.Destroys m (c :: cs)) (goes : h.teardown = some name)
    (opened : h.number ∉ m.closed) :
    ∃ out m', (h.provisioner.remove name).Runs (h.afterClose m) c.1 out m' ∧
      c.2 = out.isOk := by
  cases run with
  | call run between rest =>
    rw [runs_destroy_open opened] at run
    simp only [tearDown, goes] at run
    obtain ⟨out, run, hdone⟩ := runs_bind_pure.mp run
    exact ⟨out, _, run, hdone⟩

/-! ### Later calls -/

lemma Destroys.of_closed (run : h.Destroys m cs) (closed : h.number ∈ m.closed) :
    ∀ call ∈ cs, call = ([], true) := by
  induction run with
  | done => simp
  | call run between rest ih =>
    have ih := ih (between _ (mem_closed_of_runs_destroy run))
    obtain ⟨rfl, rfl, -⟩ := (runs_destroy_closed closed).mp run
    intro call hcall
    rcases List.mem_cons.mp hcall with rfl | hcall
    · rfl
    · exact ih call hcall

lemma Destroys.repeated (run : h.Destroys m (c :: cs)) :
    ∀ call ∈ cs, call = ([], true) := by
  cases run with
  | call run between rest => exact rest.of_closed (between _ (mem_closed_of_runs_destroy run))

/-! ### Which answers can be relied on -/

lemma truthful_of_removed (removed : h.provisioner.Removed name c.1) :
    h.Truthful name (c :: cs) := by
  intro before log after heq
  refine ⟨c, ?_, removed⟩
  cases before with
  | nil =>
    obtain ⟨rfl, -⟩ := List.cons.inj heq
    simp
  | cons call before =>
    obtain ⟨rfl, -⟩ := List.cons.inj heq
    simp

/-- After a removal that failed, an answer that exchanged nothing cannot be relied on. -/
lemma not_truthful_of_failed {log : Log} {failure : Failure} {m' : Memory}
    (run : (h.provisioner.remove name).Runs m log (.error failure) m') :
    ¬ h.Truthful name ((log, false) :: ([], true) :: cs) := by
  intro truthful
  have confined := h.provisioner.confined_remove name
  obtain ⟨call, hcall, n, n', removed⟩ := truthful [(log, false)] [] cs rfl
  rcases List.mem_cons.mp hcall with rfl | hcall
  · cases confined.result_eq run removed
  · cases List.mem_singleton.mp hcall
    rw [confined.eq_done removed] at run
    obtain ⟨-, hout, -⟩ := runs_done.mp run
    cases hout

/-- All answers can be relied on exactly if the first call removed the container, or was the only
one. -/
lemma Destroys.truthful_iff (run : h.Destroys m (c :: cs)) (goes : h.teardown = some name)
    (opened : h.number ∉ m.closed) :
    h.Truthful name (c :: cs) ↔ c.2 = true ∨ cs = [] := by
  obtain ⟨out, m', removal, answer⟩ := run.removal goes opened
  obtain ⟨log, done⟩ := c
  cases out with
  | ok _ =>
    obtain rfl : done = true := answer
    simp only [true_or, iff_true]
    exact truthful_of_removed ⟨_, _, removal⟩
  | error failure =>
    obtain rfl : done = false := answer
    cases cs with
    | nil =>
      simp only [or_true, iff_true]
      intro before log' after heq
      cases before with
      | nil => cases heq
      | cons call before =>
        obtain ⟨-, heq⟩ := List.cons.inj heq
        simp at heq
    | cons call cs =>
      rw [run.repeated call List.mem_cons_self]
      simp [not_truthful_of_failed removal]

/-- Let a handle hold a container that was created or found, under a name that the profile owns. The
first call to destroy it has the container removed and answers whether that succeeded. Every later call
exchanges nothing and answers that nothing stands in the way. So all answers can be relied on exactly if
the first call removed the container, or was the only one. -/
theorem answers_of_destroys (p : Profile) (provisioner : Provisioner) (e : Container.Endpoint)
    (number : Nat) (held : e.ownership ≠ .external) (named : e.name = some name)
    (owned : p.owns name = true) (opened : number ∉ m.closed)
    (run : (ofEndpoint p provisioner e number).Destroys m (c :: cs)) :
    let h := ofEndpoint p provisioner e number
    (∃ out m', (provisioner.remove name).Runs (h.afterClose m) c.1 out m' ∧
      c.2 = out.isOk) ∧
    (∀ call ∈ cs, call = ([], true)) ∧
    (h.Truthful name (c :: cs) ↔ c.2 = true ∨ cs = []) := by
  intro h
  have goes : h.teardown = some name := teardownOf_eq_some.mpr ⟨held, named, owned⟩
  exact ⟨run.removal goes opened, run.repeated, run.truthful_iff goes opened⟩

/-! ### A removal that fails -/

/-- A sandbox in a container that was launched. -/
def ofLaunch (name : String) : Handle :=
  ofEndpoint (.aio .usual) .delegated ⟨some name, "127.0.0.1", .created⟩ 0

lemma teardown_ofLaunch (owned : (Profile.aio .usual).owns name = true) :
    (ofLaunch name).teardown = some name := by
  have goes : teardownOf (.aio .usual) ⟨some name, "127.0.0.1", .created⟩ = some name :=
    teardownOf_eq_some.mpr ⟨by simp, rfl, owned⟩
  exact goes

lemma destroys_twice (goes : (ofLaunch name).teardown = some name)
    (failure : Failure) :
    (ofLaunch name).Destroys (.empty 4 4) [([⟨.remove name, Except.error failure⟩], false), ([], true)] := by
  have first : (ofLaunch name).destroy.Runs (.empty 4 4) [⟨.remove name, Except.error failure⟩] false
      ((ofLaunch name).afterClose (.empty 4 4)) := by
    rw [runs_destroy_open List.not_mem_nil]
    simp only [tearDown, goes]
    exact runs_bind_pure.mpr ⟨.error failure, runs_query.mpr ⟨rfl, rfl⟩, rfl⟩
  have closed := mem_closed_of_runs_destroy first
  exact .call first (fun _ hn => hn)
    (.call ((runs_destroy_closed closed).mpr ⟨rfl, rfl, rfl⟩) (fun _ hn => hn) (.done _))

/-- After a removal that failed, a second call answers yes though the container is still there. -/
theorem answers_of_destroys_twice :
    let name := "aio-sandbox-0badc0de"
    let calls := [([⟨.remove name, Except.error (.provision "no answer")⟩], false), ([], true)]
    (Profile.aio .usual).owns name = true ∧ (ofLaunch name).Destroys (.empty 4 4) calls ∧
      ((ofLaunch name).Truthful name calls ↔ False) := by
  intro name calls
  have owned : (Profile.aio .usual).owns name = true := by decide +kernel
  have goes : (ofLaunch name).teardown = some name := teardown_ofLaunch owned
  have run : (ofLaunch name).Destroys (.empty 4 4) calls := destroys_twice goes _
  obtain ⟨-, -, truthful⟩ := answers_of_destroys (.aio .usual) .delegated
    ⟨some name, "127.0.0.1", .created⟩ 0 nofun rfl owned List.not_mem_nil run
  refine ⟨owned, run, truthful.trans ?_⟩
  simp

/-- A removal that failed is answered truthfully once, and then as if it had succeeded. -/
theorem not_truthful_of_destroys_twice :
    let name := "aio-sandbox-0badc0de"
    let calls := [([⟨.remove name, Except.error (.provision "no answer")⟩], false), ([], true)]
    (ofLaunch name).teardown = some name ∧ (ofLaunch name).Destroys (.empty 4 4) calls ∧
      ¬ (ofLaunch name).Truthful name calls := by
  intro name calls
  have owned : (Profile.aio .usual).owns name = true := by decide +kernel
  have goes : (ofLaunch name).teardown = some name := teardown_ofLaunch owned
  refine ⟨goes, destroys_twice goes _, ?_⟩
  exact not_truthful_of_failed (m := .empty 4 4) (runs_query.mpr ⟨rfl, rfl⟩)

end Handle

end Sandboxes
