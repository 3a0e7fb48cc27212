import Sandboxes.Proofs.Control.Polling
import Sandboxes.Proofs.Duration

/-!
# The time waited

A failure to become ready says how many whole seconds were let pass between the attempts. This is the
time of the pauses that were in fact made, whatever was answered in between.
-/

namespace Sandboxes

/-- How many nanoseconds are let pass by a question. -/
def Query.slept : Query → Nat
  | .pause time => time.total
  | _ => 0

namespace Log

/-- How many nanoseconds were let pass. -/
def slept (log : Log) : Nat :=
  log.foldr (fun x later => x.query.slept + later) 0

@[simp] lemma slept_nil : slept [] = 0 := rfl

lemma slept_cons (x : Exchange) (l : Log) : slept (x :: l) = x.query.slept + l.slept := rfl

@[simp] lemma slept_append (l l' : Log) : (l ++ l').slept = l.slept + l'.slept := by
  induction l with
  | nil => exact (Nat.zero_add _).symm
  | cons x l ih => rw [List.cons_append, slept_cons, slept_cons, ih, Nat.add_assoc]

lemma slept_fetch {request : Http.Request} {o : Http.Outcome} : slept [⟨.fetch request, o⟩] = 0 := rfl

lemma slept_pause {time : Duration} {reply : Unit} : slept [⟨.pause time, reply⟩] = time.total :=
  Nat.add_zero _

end Log

namespace Control

open Program

variable {m m' : Memory} {log : Log} {i : Interface} {p : Probe} {r r' : Readiness}

namespace Interface

/-! ### Attempts that all fail -/

lemma slept_of_runs_isReady {ready : Bool} (run : (i.isReady p r).Runs m log ready m') :
    log.slept = 0 := by
  rw [isReady_eq] at run
  cases asks : i.asking p r with
  | error fault =>
    rw [asks] at run
    obtain ⟨rfl, -, -⟩ := runs_pure.mp run
    exact Log.slept_nil
  | ok request =>
    rw [asks] at run
    obtain ⟨o, sent, -⟩ := runs_bind_pure.mp run
    obtain ⟨rfl, -⟩ := runs_query.mp sent
    exact Log.slept_fetch

/-- An attempt that fails is followed by the others after a pause, unless it is the last one. -/
lemma poll_succ_eq {left : Nat} : i.poll p r (left + 1) = i.isReady p r >>= fun ready =>
    if ready then pure true
    else if left = 0 then pure false
    else query (.pause r.interval) >>= fun _ => i.poll p r left := by
  rw [poll]
  refine congrArg (i.isReady p r >>= ·) (funext fun ready => ?_)
  cases ready <;> cases left <;> rfl

/-- Attempts that all fail are a pause apart from each other. -/
lemma slept_of_runs_poll {left : Nat} (run : (i.poll p r left).Runs m log false m') :
    log.slept = r.interval.total * (left - 1) := by
  induction left generalizing m log with
  | zero =>
    obtain ⟨rfl, -, -⟩ := runs_pure.mp run
    rfl
  | succ left ih =>
    rw [poll_succ_eq] at run
    obtain ⟨first, ready, _, rest, attempt, others, rfl⟩ := runs_bind.mp run
    rw [Log.slept_append, slept_of_runs_isReady attempt, Nat.zero_add, Nat.add_sub_cancel]
    cases ready with
    | true => cases (runs_pure.mp others).2.1
    | false =>
      rw [if_neg Bool.false_ne_true] at others
      by_cases last : left = 0
      · rw [if_pos last] at others
        obtain ⟨rfl, -, -⟩ := runs_pure.mp others
        rw [last, Nat.mul_zero, Log.slept_nil]
      · rw [if_neg last] at others
        obtain ⟨_, _, _, later, paused, again, rfl⟩ := runs_bind.mp others
        obtain ⟨rfl, rfl⟩ := runs_query.mp paused
        have count : left = left - 1 + 1 := by omega
        rw [Log.slept_append, Log.slept_pause, ih again]
        nth_rewrite 2 [count]
        rw [Nat.mul_succ, Nat.add_comm]

lemma runs_await_error {f : Failure} :
    (i.await p r).Runs m log (.error f) m' ↔
      (i.poll p r r.attempts).Runs m log false m' ∧ f = .exhausted r.attempts r.interval := by
  have await_eq : i.await p r = i.poll p r r.attempts >>= fun ready =>
      pure (if ready then .ok () else .error (.exhausted r.attempts r.interval)) :=
    congrArg (i.poll p r r.attempts >>= ·) (funext fun ready => by cases ready <;> rfl)
  rw [await_eq, runs_bind_pure]
  constructor
  · rintro ⟨ready, run, failed⟩
    cases ready with
    | true => cases failed
    | false =>
      cases failed
      exact ⟨run, rfl⟩
  · rintro ⟨run, rfl⟩
    exact ⟨false, run, rfl⟩

/-- Attempts may all fail: no connection may be opened. -/
lemma exists_runs_await_error :
    ∃ log, (i.await p r).Runs m log (.error (.exhausted r.attempts r.interval)) m := by
  let closed (_ : Nat) : Http.Outcome := .refused
  have bad (k : Nat) : ¬ p.Good (closed k) := by
    rintro ⟨_, _, _, answered, -⟩
    cases answered
  suffices ∃ log, (i.await p r).run (answering (inTurn closed)) m [] =
      ((.error (.exhausted r.attempts r.interval), m), [] ++ log) from
    this.imp fun log run => (run_answering_eq_iff.mp run).1
  cases asks : i.asking p r with
  | error fault => exact ⟨_, by rw [run_await, run_poll_unsent asks]; rfl⟩
  | ok request =>
    have least : 0 < r.attempts := Nat.lt_of_lt_of_le Nat.one_pos (Nat.le_max_left ..)
    have fits : r.attempts - 1 < r.attempts := Nat.sub_one_lt_of_lt least
    have count : r.attempts - 1 + 1 = r.attempts := Nat.sub_add_cancel least
    exact ⟨_, run_await_of_attempts asks fits (fun k _ => bad k) (.inl count)⟩

end Interface

/-! ### The failure -/

/-- The whole seconds between the attempts that settings allow. -/
lemma exhausted_eq (r : Readiness) : Failure.exhausted r.attempts r.interval =
    .unready r.attempts (min (2 ^ 64 - 1) (r.intervalMillis.toNat * (r.attempts - 1) / 1000)) := by
  have whole : r.intervalMillis.toNat * 10 ^ 6 * (r.attempts - 1) / 10 ^ 9 =
      r.intervalMillis.toNat * (r.attempts - 1) / 1000 := by
    rw [Nat.mul_right_comm, show 10 ^ 9 = 1000 * 10 ^ 6 from rfl]
    exact Nat.mul_div_mul_right _ _ (by decide)
  rw [Failure.exhausted, Duration.seconds_times, Readiness.interval, Duration.total_ofMillis, whole]

/-- Waiting that fails, as it may, fails with the number of attempts and with the whole seconds that were
let pass between them: the exact product of the pause and the pauses made, up to what 64 bits hold. It is
computed on seconds and nanoseconds, where the product of the nanoseconds never needs more than 64 bits,
and no other step passes the longest duration. It grows with both settings, and a single attempt waits
for nothing. -/
theorem waited_of_exhausted (i : Interface) (p : Probe) (r : Readiness) (m : Memory) :
    let n := max 1 r.maxAttempts.toNat
    let waited := min (2 ^ 64 - 1) (r.intervalMillis.toNat * (n - 1) / 1000)
    (∃ log, (i.await p r).Runs m log (.error (.unready n waited)) m) ∧
    (∀ log f m', (i.await p r).Runs m log (.error f) m' → f = .unready n waited ∧
      log.slept = r.intervalMillis.toNat * 10 ^ 6 * (n - 1) ∧
      waited = min (2 ^ 64 - 1) (log.slept / 10 ^ 9)) ∧
    r.interval.nanos * (n - 1) < 2 ^ 64 ∧
    (r.interval.times (n - 1)).total = min Duration.longest.total (r.interval.total * (n - 1)) ∧
    (∀ r' : Readiness, r.maxAttempts ≤ r'.maxAttempts → r.intervalMillis ≤ r'.intervalMillis →
      ∀ log n' waited' m', (i.await p r').Runs m log (.error (.unready n' waited')) m' →
        waited ≤ waited') ∧
    (r.maxAttempts ≤ 1 → waited = 0) := by
  intro n waited
  have exhausted : Failure.exhausted r.attempts r.interval = .unready n waited := exhausted_eq r
  have nanoseconds : r.interval.total = r.intervalMillis.toNat * 10 ^ 6 := Duration.total_ofMillis _
  have few : n - 1 < 2 ^ 32 := by
    have := r.maxAttempts.toNat_lt
    omega
  refine ⟨exhausted ▸ Interface.exists_runs_await_error, ?_, r.interval.nanos_mul_lt few,
    r.interval.total_times (n - 1), ?_, ?_⟩
  · intro log f m' run
    obtain ⟨polled, rfl⟩ := Interface.runs_await_error.mp run
    have slept : log.slept = r.interval.total * (n - 1) := Interface.slept_of_runs_poll polled
    have seconds : waited = (r.interval.times (n - 1)).seconds :=
      (Failure.unready.inj exhausted).2.symm
    exact ⟨exhausted, slept.trans (by rw [nanoseconds]), by rw [seconds, slept, Duration.seconds_times]⟩
  · intro r' attempts pause log n' waited' m' run
    obtain ⟨-, failed⟩ := Interface.runs_await_error.mp run
    rw [exhausted_eq] at failed
    cases failed
    have more : n - 1 ≤ r'.attempts - 1 :=
      Nat.sub_le_sub_right (max_le_max_left 1 (UInt32.le_iff_toNat_le.mp attempts)) 1
    have longer := Nat.mul_le_mul (UInt64.le_iff_toNat_le.mp pause) more
    exact min_le_min_left _ (Nat.div_le_div_right longer)
  · intro single
    have none : n - 1 = 0 := by
      have : r.maxAttempts.toNat ≤ 1 := UInt32.le_iff_toNat_le.mp single
      omega
    have zero : waited = min (2 ^ 64 - 1) (r.intervalMillis.toNat * 0 / 1000) := by rw [← none]
    simpa using zero

/-- Two pauses of one and a half seconds are three seconds. The largest settings there are reach what 64
bits hold, and a single attempt does not wait, however long the pause would be. -/
theorem waited_of_exhausted_largest :
    let waits (attempts : UInt32) (millis : UInt64) (log : Log) (seconds : Nat) :=
      (Interface.await ⟨"http://10.0.0.7:8080", .ofSeconds 600⟩ (probe .aio)
        { Readiness.usual with maxAttempts := attempts, intervalMillis := millis }).Runs
          (.empty 4 4) log (.error (.unready (max 1 attempts.toNat) seconds)) (.empty 4 4)
    (∃ log, waits 3 1500 log 3 ∧ log.slept = 3 * 10 ^ 9) ∧
      (∃ log, waits 4294967295 18446744073709551615 log (2 ^ 64 - 1)) ∧ 3 ≤ 2 ^ 64 - 1 ∧
      ∃ log, waits 1 18446744073709551615 log 0 := by
  intro waits
  have law (attempts : UInt32) (millis : UInt64) :=
    waited_of_exhausted ⟨"http://10.0.0.7:8080", .ofSeconds 600⟩ (probe .aio)
      { Readiness.usual with maxAttempts := attempts, intervalMillis := millis } (.empty 4 4)
  obtain ⟨⟨short, run⟩, failures, -, -, grows, -⟩ := law 3 1500
  obtain ⟨⟨long, run'⟩, -⟩ := law 4294967295 18446744073709551615
  obtain ⟨⟨single, run''⟩, -, -, -, -, zero⟩ := law 1 18446744073709551615
  refine ⟨⟨short, run, (failures short _ _ run).2.1⟩, ⟨long, run'⟩, ?_, single, ?_⟩
  · exact grows _ (by decide) (by decide) long _ _ _ run'
  · rw [zero (by decide)] at run''
    exact run''

end Control

end Sandboxes
