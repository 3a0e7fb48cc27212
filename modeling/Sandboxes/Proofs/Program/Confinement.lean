import Sandboxes.Proofs.Program.Runs

/-!
# Confinement of programs

A program is confined to some questions and some steps of the memory if it never asks another
question and never takes another step, whatever it is replied. Its runs then exchange nothing else,
and keep every property of the memory that those steps keep. A program may also be given a budget of
questions that it would not be allowed otherwise.
-/

namespace Sandboxes.Program

variable {α β ε : Type} {Q Q' : Query → Prop} {S S' : Memory.Step → Prop}

/-- All that the program may ask satisfies `Q`, and all steps that it may take satisfy `S`. -/
inductive Confined (Q : Query → Prop) (S : Memory.Step → Prop) : Program α → Prop
  | done (a : α) : Confined Q S (.done a)
  | ask {q : Query} {next : q.Reply → Program α} (asks : Q q)
      (rest : ∀ r, Confined Q S (next r)) : Confined Q S (.ask q next)
  | remember {s : Memory.Step} {next : s.Result → Program α} (takes : S s)
      (rest : ∀ r, Confined Q S (next r)) : Confined Q S (.remember s next)

lemma confined_ask {q : Query} {next : q.Reply → Program α} :
    (ask q next).Confined Q S ↔ Q q ∧ ∀ r, (next r).Confined Q S := by
  constructor
  · intro h
    cases h with
    | ask asks rest => exact ⟨asks, rest⟩
  · rintro ⟨asks, rest⟩
    exact .ask asks rest

lemma confined_remember {s : Memory.Step} {next : s.Result → Program α} :
    (remember s next).Confined Q S ↔ S s ∧ ∀ r, (next r).Confined Q S := by
  constructor
  · intro h
    cases h with
    | remember takes rest => exact ⟨takes, rest⟩
  · rintro ⟨takes, rest⟩
    exact .remember takes rest

@[simp] lemma confined_query {q : Query} : (query q).Confined Q S ↔ Q q :=
  confined_ask.trans (and_iff_left .done)

@[simp] lemma confined_step {s : Memory.Step} : (step s).Confined Q S ↔ S s :=
  confined_remember.trans (and_iff_left .done)

namespace Confined

lemma bind {p : Program α} {f : α → Program β} (hp : p.Confined Q S)
    (hf : ∀ a, (f a).Confined Q S) : (p >>= f).Confined Q S := by
  change (p.bind f).Confined Q S
  induction hp with
  | done a => exact hf a
  | ask asks _ ih => exact .ask asks ih
  | remember takes _ ih => exact .remember takes ih

/-- A program whose result is only mapped. -/
lemma bind_pure {p : Program α} {f : α → β} (hp : p.Confined Q S) :
    (p >>= fun a => pure (f a)).Confined Q S :=
  hp.bind fun _ => .done _

lemma except_bind {x : ExceptT ε Program α} {f : α → ExceptT ε Program β}
    (hx : x.run.Confined Q S) (hf : ∀ a, (f a).run.Confined Q S) : (x >>= f).run.Confined Q S := by
  rw [ExceptT.run_bind]
  refine hx.bind fun out => ?_
  cases out with
  | ok a => exact hf a
  | error e => exact .done _

lemma mono {p : Program α} (hp : p.Confined Q S) (hQ : ∀ q, Q q → Q' q) (hS : ∀ s, S s → S' s) :
    p.Confined Q' S' := by
  induction hp with
  | done a => exact .done a
  | ask asks _ ih => exact .ask (hQ _ asks) ih
  | remember takes _ ih => exact .remember (hS _ takes) ih

lemma any {p : Program α} (hp : p.Confined Q S) : p.Confined (fun _ => True) S :=
  hp.mono (fun _ _ => trivial) (fun _ h => h)

variable {p : Program α} {m m' : Memory} {log : Log} {a : α}

/-- A run exchanges nothing else. -/
lemma asked (hp : p.Confined Q S) (h : p.Runs m log a m') : ∀ x ∈ log, Q x.query := by
  induction h with
  | done => simp
  | ask r _ ih =>
    obtain ⟨asks, rest⟩ := confined_ask.mp hp
    intro x hx
    cases hx with
    | head => exact asks
    | tail _ hx => exact ih (rest r) x hx
  | remember _ ih => exact ih ((confined_remember.mp hp).2 _)

/-- A run keeps what the steps keep. -/
lemma kept (hp : p.Confined Q S) {I : Memory → Prop}
    (keeps : ∀ s m, S s → I m → I (s.apply m).2) (h : p.Runs m log a m') (hm : I m) : I m' := by
  induction h with
  | done => exact hm
  | ask r _ ih => exact ih ((confined_ask.mp hp).2 r) hm
  | remember _ ih =>
    obtain ⟨takes, rest⟩ := confined_remember.mp hp
    exact ih (rest _) (keeps _ _ takes hm)

/-- A run of a program that takes no steps leaves the memory as it is. -/
lemma memory_eq (hp : p.Confined Q fun _ => False) (h : p.Runs m log a m') : m' = m :=
  hp.kept (I := (· = m)) (fun _ _ hs => hs.elim) h rfl

/-- What a program that takes no steps comes to depends on what it exchanged only. -/
lemma result_eq {n n' : Memory} {b : α} (hp : p.Confined Q fun _ => False)
    (h : p.Runs m log a m') (h' : p.Runs n log b n') : b = a := by
  induction h generalizing n with
  | done =>
    obtain ⟨-, rfl, -⟩ := runs_done.mp h'
    rfl
  | ask r _ ih =>
    obtain ⟨r', rest, heq, h'⟩ := runs_ask.mp h'
    cases heq
    exact ih ((confined_ask.mp hp).2 r) h'
  | remember _ _ => exact (confined_remember.mp hp).1.elim

lemma eq_done (hp : p.Confined Q fun _ => False) (h : p.Runs m [] a m') : p = .done a := by
  cases h with
  | done => rfl
  | remember _ => exact (confined_remember.mp hp).1.elim

end Confined

/-! ### Budgets -/

section Spends

variable {R : Query → Prop} {n : Nat}

/-- The program asks what satisfies `R` at most so many times, and is confined otherwise. -/
inductive Spends (R Q : Query → Prop) (S : Memory.Step → Prop) : Program α → Nat → Prop
  | done (a : α) (n : Nat) : Spends R Q S (.done a) n
  | ask {q : Query} {next : q.Reply → Program α} {n : Nat} (asks : Q q)
      (rest : ∀ r, Spends R Q S (next r) n) : Spends R Q S (.ask q next) n
  | spend {q : Query} {next : q.Reply → Program α} {n : Nat} (spends : R q)
      (rest : ∀ r, Spends R Q S (next r) n) : Spends R Q S (.ask q next) (n + 1)
  | remember {s : Memory.Step} {next : s.Result → Program α} {n : Nat} (takes : S s)
      (rest : ∀ r, Spends R Q S (next r) n) : Spends R Q S (.remember s next) n

lemma spends_ask {q : Query} {next : q.Reply → Program α} :
    (ask q next).Spends R Q S n ↔
      (Q q ∧ ∀ r, (next r).Spends R Q S n) ∨
      ∃ k, n = k + 1 ∧ R q ∧ ∀ r, (next r).Spends R Q S k := by
  constructor
  · intro h
    cases h with
    | ask asks rest => exact .inl ⟨asks, rest⟩
    | spend spends rest => exact .inr ⟨_, rfl, spends, rest⟩
  · rintro (⟨asks, rest⟩ | ⟨k, rfl, spends, rest⟩)
    · exact .ask asks rest
    · exact .spend spends rest

lemma spends_remember {s : Memory.Step} {next : s.Result → Program α} :
    (remember s next).Spends R Q S n ↔ S s ∧ ∀ r, (next r).Spends R Q S n := by
  constructor
  · intro h
    cases h with
    | remember takes rest => exact ⟨takes, rest⟩
  · rintro ⟨takes, rest⟩
    exact .remember takes rest

lemma Confined.spends {p : Program α} (hp : p.Confined Q S) : p.Spends R Q S n := by
  induction hp with
  | done a => exact .done a n
  | ask asks _ ih => exact .ask asks ih
  | remember takes _ ih => exact .remember takes ih

lemma spends_query {q : Query} (h : R q) : (query q).Spends R Q S 1 :=
  .spend h fun r => .done r 0

/-- The first program leaves the budget to the second. -/
lemma Confined.bind_spends {p : Program α} {f : α → Program β} (hp : p.Confined Q S)
    (hf : ∀ a, (f a).Spends R Q S n) : (p >>= f).Spends R Q S n := by
  change (p.bind f).Spends R Q S n
  induction hp with
  | done a => exact hf a
  | ask asks _ ih => exact .ask asks ih
  | remember takes _ ih => exact .remember takes ih

/-- The second program leaves the budget to the first. -/
lemma Spends.bind_confined {p : Program α} {f : α → Program β} (hp : p.Spends R Q S n)
    (hf : ∀ a, (f a).Confined Q S) : (p >>= f).Spends R Q S n := by
  change (p.bind f).Spends R Q S n
  induction hp with
  | done a n => exact (hf a).spends
  | ask asks _ ih => exact .ask asks ih
  | spend spends _ ih => exact .spend spends ih
  | remember takes _ ih => exact .remember takes ih

end Spends

end Sandboxes.Program
