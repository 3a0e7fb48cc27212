import Mathlib.Data.Nat.Find
import Sandboxes.Proofs.Control.Runs
import Sandboxes.Proofs.Json.Settle

/-!
# Polling

What becomes of waiting for a sandbox, by what its server makes of one request after the other.
`await_of_sequence` says that the first good answer ends the waiting, that without one all attempts
are made, and that there is a pause between each two of them and none after the last.
-/

namespace Sandboxes

def Query.isFetch : Query → Bool
  | .fetch _ => true
  | _ => false

def Query.isPause : Query → Bool
  | .pause _ => true
  | _ => false

namespace Log

/-- How many requests were sent to web servers. -/
def fetches (log : Log) : Nat :=
  log.countP (·.query.isFetch)

/-- How many times time was let pass. -/
def pauses (log : Log) : Nat :=
  log.countP (·.query.isPause)

@[simp] lemma fetches_append (l l' : Log) : (l ++ l').fetches = l.fetches + l'.fetches :=
  List.countP_append

@[simp] lemma fetches_nil : fetches [] = 0 := rfl

@[simp] lemma fetches_cons_fetch {request : Http.Request} {o : Http.Outcome} {log : Log} :
    fetches (⟨.fetch request, o⟩ :: log) = log.fetches + 1 :=
  List.countP_cons_of_pos rfl

@[simp] lemma fetches_cons_pause {time : Duration} {reply : Unit} {log : Log} :
    fetches (⟨.pause time, reply⟩ :: log) = log.fetches :=
  List.countP_cons_of_neg Bool.false_ne_true

@[simp] lemma pauses_cons_fetch {request : Http.Request} {o : Http.Outcome} {log : Log} :
    pauses (⟨.fetch request, o⟩ :: log) = log.pauses :=
  List.countP_cons_of_neg Bool.false_ne_true

@[simp] lemma pauses_cons_pause {time : Duration} {reply : Unit} {log : Log} :
    pauses (⟨.pause time, reply⟩ :: log) = log.pauses + 1 :=
  List.countP_cons_of_pos rfl

/-- What became of the requests to web servers. -/
def outcomes (log : Log) : List Http.Outcome :=
  log.filterMap fun
    | ⟨.fetch _, o⟩ => some o
    | _ => none

end Log

namespace Control

open Program

variable {m m' : Memory} {log past : Log} {i : Interface} {p : Probe} {r : Readiness}
  {request : Http.Request} {server : Nat → Http.Outcome}

/-! ### Good answers -/

/-- What the document of a sandbox says that is ready. -/
def Probe.Holds : Probe → Json → Prop
  | .health _, document => document.get? "status" = some (.str "healthy")
  | .supervisor _, document => ∃ services, document.get? "data" = some (.arr services) ∧
      services ≠ [] ∧ ∀ service ∈ services, service.get? "statename" = some (.str "RUNNING")

/-- The server answered with success, and with the document of a sandbox that is ready. -/
def Probe.Good (p : Probe) (o : Http.Outcome) : Prop :=
  ∃ status body document, o = .answered status (some body) ∧ 200 ≤ status ∧ status < 300 ∧
    Json.read? body = some document ∧ p.Holds document

namespace Probe

lemma isRunning_settle {service : Json} :
    isRunning service.settle = true ↔ service.get? "statename" = some (.str "RUNNING") := by
  rw [isRunning, decide_eq_true_iff, Json.string?_get, Json.get?_settle_eq_str]

lemma isReady_supervisor {path : String} {document : Json} :
    (supervisor path).isReady document = true ↔
      ∃ services, document.get? "data" = some (.arr services) ∧ services ≠ [] ∧
        ∀ service ∈ services, isRunning service = true := by
  simp only [isReady, ← Json.get_eq_arr]
  cases document.get "data" <;> simp

/-- Settling a document does not change whether it says that the sandbox is ready. -/
lemma isReady_settle {document : Json} : p.isReady document.settle = true ↔ p.Holds document := by
  cases p with
  | health path =>
    rw [isReady, decide_eq_true_iff, Json.string?_get, Json.get?_settle_eq_str, Holds]
  | supervisor path =>
    simp only [isReady_supervisor, Holds, Json.get?_settle_eq_arr]
    constructor
    · rintro ⟨_, ⟨services, found, rfl⟩, some, running⟩
      refine ⟨services, found, by simpa using some, fun service hservice => ?_⟩
      exact isRunning_settle.mp (running _ (List.mem_map_of_mem hservice))
    · rintro ⟨services, found, some, running⟩
      refine ⟨_, ⟨services, found, rfl⟩, by simpa using some, List.forall_mem_map.mpr ?_⟩
      exact fun service hservice => isRunning_settle.mpr (running service hservice)

/-- Whether an attempt ends the waiting. -/
def accepts (p : Probe) (request : Http.Request) (o : Http.Outcome) : Bool :=
  match ((outcomeOf request o).bind successful).bind Interface.documentOf with
  | .ok document => p.isReady document
  | .error _ => false

end Probe

lemma outcomeOf_eq_ok {o : Http.Outcome} {status : Nat} {body : Option Bytes} :
    outcomeOf request o = .ok (status, body) ↔ o = .answered status body := by
  cases o <;> simp [outcomeOf]

lemma successful_eq_ok {status : Nat} {body : Option Bytes} {bytes : Bytes} :
    successful (status, body) = .ok bytes ↔ 200 ≤ status ∧ status < 300 ∧ body = some bytes := by
  have success : Net.isSuccess status = true ↔ 200 ≤ status ∧ status < 300 := by
    simp [Net.isSuccess]
  unfold successful
  rw [← and_assoc, ← success]
  by_cases h : Net.isSuccess status = true
  · cases body <;> simp [h]
  · simp [h]

lemma documentOf_eq_ok {bytes : Bytes} {document : Json} :
    Interface.documentOf bytes = .ok document ↔
      ∃ given, Json.read? bytes = some given ∧ document = given.settle := by
  unfold Interface.documentOf
  cases Json.read? bytes <;> simp [eq_comm]

lemma Probe.accepts_eq_true {o : Http.Outcome} : p.accepts request o = true ↔ p.Good o := by
  have accepts_iff : p.accepts request o = true ↔ ∃ document,
      ((outcomeOf request o).bind successful).bind Interface.documentOf = .ok document ∧
        p.isReady document = true := by
    unfold accepts
    split <;> simp [*]
  simp only [accepts_iff, bind_eq_ok, documentOf_eq_ok]
  constructor
  · rintro ⟨_, ⟨bytes, ⟨⟨status, body⟩, answered, success⟩, given, read, rfl⟩, ready⟩
    obtain ⟨low, high, rfl⟩ := successful_eq_ok.mp success
    exact ⟨status, bytes, given, outcomeOf_eq_ok.mp answered, low, high, read,
      isReady_settle.mp ready⟩
  · rintro ⟨status, bytes, given, answered, low, high, read, holds⟩
    exact ⟨_, ⟨bytes, ⟨(status, some bytes), outcomeOf_eq_ok.mpr answered,
      successful_eq_ok.mpr ⟨low, high, rfl⟩⟩, given, read, rfl⟩, isReady_settle.mpr holds⟩

/-! ### Single attempts -/

namespace Interface

/-- The request of every attempt, or the fault of an address that is no URL of a web server. -/
def asking (i : Interface) (p : Probe) (r : Readiness) : Except Fault Http.Request :=
  composed "GET" (i.base ++ p.path) [] .nothing r.attemptLimit

lemma isReady_eq : i.isReady p r =
    match i.asking p r with
    | .error _ => pure false
    | .ok request => query (.fetch request) >>= fun o => pure (p.accepts request o) := by
  simp only [isReady, document, send, exchange_eq, bind_assoc, pure_bind]
  unfold asking
  cases composed "GET" (i.base ++ p.path) [] .nothing r.attemptLimit with
  | error fault => rfl
  | ok request =>
    simp only [bind_assoc, pure_bind]
    refine congrArg (query _ >>= ·) (funext fun o => ?_)
    unfold Probe.accepts
    split <;> simp_all

end Interface

/-! ### Attempts in turn -/

/-- What attempts with these outcomes exchange: a request each, and a pause between each two. -/
def attempts (request : Http.Request) (pause : Duration) (outcomes : List Http.Outcome) : Log :=
  (outcomes.map fun o => (⟨.fetch request, o⟩ : Exchange)).intersperse ⟨.pause pause, ()⟩

/-- The world in which the sandbox server makes of the requests what the sequence says, one after
the other. -/
def inTurn (server : Nat → Http.Outcome) (past : Log) : (q : Query) → q.Reply
  | .fetch _ => server past.fetches
  | q => (default : q.Reply)

namespace Interface

/-- One attempt, and what follows it. -/
lemma poll_succ {left : Nat} (asks : i.asking p r = .ok request) :
    i.poll p r (left + 1) = query (.fetch request) >>= fun o =>
      if p.accepts request o then pure true
      else if left = 0 then pure false
      else query (.pause r.interval) >>= fun _ => i.poll p r left := by
  rw [poll, isReady_eq, asks, bind_assoc]
  refine congrArg (query (.fetch request) >>= ·) (funext fun o => ?_)
  rw [pure_bind]
  by_cases ready : p.accepts request o = true
  · rw [if_pos ready, if_pos ready]
  · rw [if_neg ready, if_neg ready]
    cases left <;> rfl

lemma run_poll_succ {world : Log → (q : Query) → q.Reply} {left : Nat}
    (asks : i.asking p r = .ok request) :
    (i.poll p r (left + 1)).run (answering world) m past =
      let o : Http.Outcome := world past (.fetch request)
      let past := past ++ [⟨.fetch request, o⟩]
      if p.accepts request o then ((true, m), past)
      else if left = 0 then ((false, m), past)
      else (i.poll p r left).run (answering world) m (past ++ [⟨.pause r.interval, ()⟩]) := by
  rw [poll_succ asks, run_answering_bind]
  change run (answering world) (if p.accepts request (world past (.fetch request)) then _ else _) m
    (past ++ [⟨.fetch request, world past (.fetch request)⟩]) = _
  dsimp only
  split
  · rfl
  · split
    · rfl
    · exact run_answering_bind ..

/-- Attempts are made up to the first good one, or to the last. -/
lemma run_poll {count left : Nat} (asks : i.asking p r = .ok request) (fits : count < left)
    (bad : ∀ k < count, ¬ p.Good (server (past.fetches + k)))
    (last : count + 1 = left ∨ p.Good (server (past.fetches + count))) :
    (i.poll p r left).run (answering (inTurn server)) m past =
      ((p.accepts request (server (past.fetches + count)), m),
        past ++ attempts request r.interval ((List.range' past.fetches (count + 1)).map server)) := by
  induction count generalizing left past with
  | zero =>
    obtain ⟨left, rfl⟩ := Nat.exists_eq_add_one_of_ne_zero (Nat.ne_zero_of_lt fits)
    rw [run_poll_succ asks]
    simp only [inTurn, Nat.add_zero]
    by_cases ready : p.accepts request (server past.fetches) = true
    · simp [ready, attempts]
    · have : left = 0 := by
        rcases last with h | h
        · omega
        · exact absurd (Probe.accepts_eq_true.mpr h) ready
      simp [ready, attempts, this]
  | succ count ih =>
    obtain ⟨left, rfl⟩ := Nat.exists_eq_add_one_of_ne_zero (Nat.ne_zero_of_lt fits)
    have unready : p.accepts request (server past.fetches) = false :=
      Bool.eq_false_iff.mpr fun ready => bad 0 (by omega) (Probe.accepts_eq_true.mp ready)
    have more : left ≠ 0 := by omega
    let after : Log := past ++ [⟨.fetch request, server past.fetches⟩] ++ [⟨.pause r.interval, ()⟩]
    have fetched : after.fetches = past.fetches + 1 := by simp [after]
    have next (k : Nat) : after.fetches + k = past.fetches + (k + 1) := by omega
    have bad : ∀ k < count, ¬ p.Good (server (after.fetches + k)) := fun k hk =>
      next k ▸ bad (k + 1) (by omega)
    have last : count + 1 = left ∨ p.Good (server (after.fetches + count)) :=
      next count ▸ last.imp_left (by omega)
    rw [run_poll_succ asks]
    simp only [inTurn, unready, more]
    refine (ih (by omega) bad last).trans ?_
    rw [next, fetched]
    simp [after, attempts, List.range'_succ]

lemma poll_succ_unsent {left : Nat} {fault : Fault} (asks : i.asking p r = .error fault) :
    i.poll p r (left + 1) =
      if left = 0 then pure false else query (.pause r.interval) >>= fun _ => i.poll p r left := by
  rw [poll, isReady_eq, asks, pure_bind]
  cases left <;> rfl

/-- Attempts at an address that is no URL of a web server go unsent, and are made nevertheless. -/
lemma run_poll_unsent {world : Log → (q : Query) → q.Reply} {left : Nat} {fault : Fault}
    (asks : i.asking p r = .error fault) :
    (i.poll p r left).run (answering world) m past =
      ((false, m), past ++ List.replicate (left - 1) ⟨.pause r.interval, ()⟩) := by
  induction left generalizing past with
  | zero => exact congrArg (Prod.mk (false, m)) (List.append_nil past).symm
  | succ left ih =>
    rw [poll_succ_unsent asks]
    by_cases last : left = 0
    · subst last
      exact congrArg (Prod.mk (false, m)) (List.append_nil past).symm
    · have pauses : left + 1 - 1 = left - 1 + 1 := by omega
      rw [if_neg last, run_answering_bind, pauses, List.replicate_succ]
      change run (answering world) (i.poll p r left) m (past ++ [⟨.pause r.interval, ()⟩]) = _
      rw [ih, List.append_assoc, List.singleton_append]

lemma run_await {world : Log → (q : Query) → q.Reply} :
    (i.await p r).run (answering world) m past =
      let ((ready, m), log) := (i.poll p r r.attempts).run (answering world) m past
      ((if ready then .ok () else .error (.exhausted r.attempts r.interval), m), log) := by
  rw [await, run_answering_bind]
  obtain ⟨⟨ready, m⟩, log⟩ := (i.poll p r r.attempts).run (answering world) m past
  cases ready <;> rfl

/-- What becomes of waiting, up to the first good answer or to the last attempt. -/
lemma run_await_of_attempts {count : Nat} (asks : i.asking p r = .ok request)
    (fits : count < r.attempts) (bad : ∀ k < count, ¬ p.Good (server k))
    (last : count + 1 = r.attempts ∨ p.Good (server count)) :
    (i.await p r).run (answering (inTurn server)) m [] =
      ((if p.accepts request (server count) then .ok ()
          else .error (.exhausted r.attempts r.interval), m),
        attempts request r.interval ((List.range (count + 1)).map server)) := by
  have first (k : Nat) : Log.fetches [] + k = k := Nat.zero_add k
  rw [run_await, run_poll asks fits (by simpa only [first] using bad)
    (by simpa only [first] using last), first, List.range_eq_range']
  rfl

end Interface

lemma attempts_cons {pause : Duration} {o : Http.Outcome} {outcomes : List Http.Outcome}
    (more : outcomes ≠ []) : attempts request pause (o :: outcomes) =
      ⟨.fetch request, o⟩ :: ⟨.pause pause, ()⟩ :: attempts request pause outcomes := by
  obtain ⟨next, rest, rfl⟩ := List.exists_cons_of_ne_nil more
  rfl

/-- There is one pause less than there are requests. -/
lemma counts_attempts {pause : Duration} (outcomes : List Http.Outcome) :
    (attempts request pause outcomes).fetches = outcomes.length ∧
      (attempts request pause outcomes).pauses = outcomes.length - 1 := by
  induction outcomes with
  | nil => exact ⟨rfl, rfl⟩
  | cons o outcomes ih =>
    by_cases more : outcomes = []
    · subst more
      exact ⟨rfl, rfl⟩
    · have : 0 < outcomes.length := List.length_pos_iff.mpr more
      obtain ⟨fetches, pauses⟩ := ih
      rw [attempts_cons more]
      simp only [Log.fetches_cons_fetch, Log.fetches_cons_pause, Log.pauses_cons_fetch,
        Log.pauses_cons_pause, fetches, pauses, List.length_cons, true_and]
      omega

/-- What only waits for a sandbox server cannot tell any other world from one in which the server
goes by a sequence. -/
lemma run_inTurn {α : Type} {p : Program α} {a : α} (run : p.Runs m log a m')
    (waits : p.Confined Query.IsSandbox fun _ => False)
    (agrees : ∀ k o, log.outcomes[k]? = some o → server (past.fetches + k) = o) :
    p.run (answering (inTurn server)) m past = ((a, m'), past ++ log) := by
  induction run generalizing past with
  | done a m => simp [run_answering_done]
  | @ask q next m m' log a reply run ih =>
    obtain ⟨asks, rest⟩ := confined_ask.mp waits
    rw [run_answering_ask]
    have told : inTurn server past q = reply := by
      cases q with
      | fetch request => exact agrees 0 reply rfl
      | pause time => rfl
      | _ => cases asks
    rw [told, ih (rest reply), List.append_assoc, List.singleton_append]
    intro k o ho
    cases q with
    | fetch request =>
      have fetched : Log.fetches (past ++ [⟨.fetch request, reply⟩]) + k =
          past.fetches + (k + 1) := by
        simp [Nat.add_assoc, Nat.add_comm 1 k]
      rw [fetched]
      exact agrees (k + 1) o ho
    | pause time =>
      have fetched : Log.fetches (past ++ [⟨.pause time, reply⟩]) = past.fetches := by simp
      rw [fetched]
      exact agrees k o ho
    | _ => cases asks
  | remember run => exact absurd (confined_remember.mp waits).1 id

/-! ### Waiting -/

/-- What becomes of waiting for a sandbox. Up to as many attempts are made as the settings say, but
one at least. The first good one among them ends the waiting, after a request for each attempt and a
pause between each two; if there is none, the waiting fails with the number of attempts, after all of
them. Attempts at an address that is no URL of a web server fail unsent. The server may as well go by
a sequence: there is no other run, and no other failure. -/
theorem await_of_sequence (i : Interface) (p : Probe) (r : Readiness) (m : Memory) :
    let n := max 1 r.maxAttempts.toNat
    let exhausted : Failure := .unready n (r.interval.times (n - 1)).seconds
    let waited server := (i.await p r).run (answering (inTurn server)) m []
    (∀ request, i.asking p r = .ok request → ∀ server,
      ((∃ k < n, p.Good (server k)) →
        ∃ k < n, p.Good (server k) ∧ (∀ j < k, ¬ p.Good (server j)) ∧ waited server =
          ((.ok (), m), attempts request r.interval ((List.range (k + 1)).map server))) ∧
      ((∀ k < n, ¬ p.Good (server k)) → waited server =
        ((.error exhausted, m), attempts request r.interval ((List.range n).map server)))) ∧
    (∀ fault, i.asking p r = .error fault → ∀ server, waited server =
      ((.error exhausted, m), List.replicate (n - 1) ⟨.pause r.interval, ()⟩)) ∧
    (∀ request outcomes, (attempts request r.interval outcomes).fetches = outcomes.length ∧
      (attempts request r.interval outcomes).pauses = outcomes.length - 1) ∧
    ∀ log out m', (i.await p r).Runs m log out m' →
      (out = .ok () ∨ out = .error exhausted) ∧ ∃ server, waited server = ((out, m'), log) := by
  intro n exhausted waited
  have least : 0 < n := Nat.lt_of_lt_of_le Nat.one_pos (Nat.le_max_left ..)
  refine ⟨fun request asks server => ⟨?_, ?_⟩, ?_, fun _ => counts_attempts, ?_⟩
  · intro some
    classical
    have bad : ∀ k < Nat.find some, ¬ p.Good (server k) := fun k hk good =>
      Nat.find_min some hk ⟨Nat.lt_trans hk (Nat.find_spec some).1, good⟩
    obtain ⟨fits, good⟩ := Nat.find_spec some
    refine ⟨Nat.find some, fits, good, bad, ?_⟩
    refine (Interface.run_await_of_attempts asks fits bad (.inr good)).trans ?_
    rw [Probe.accepts_eq_true.mpr good]
    rfl
  · intro none
    have fits : n - 1 < n := Nat.sub_one_lt_of_lt least
    have count : n - 1 + 1 = n := Nat.sub_add_cancel least
    have bad : p.accepts request (server (n - 1)) = false :=
      Bool.eq_false_iff.mpr fun ready => none (n - 1) (by omega) (Probe.accepts_eq_true.mp ready)
    have all : ∀ k < n - 1, ¬ p.Good (server k) := fun k hk => none k (by omega)
    refine (Interface.run_await_of_attempts asks fits all (.inl count)).trans ?_
    rw [bad, count]
    rfl
  · intro fault asks server
    refine Interface.run_await.trans ?_
    rw [Interface.run_poll_unsent asks]
    rfl
  · intro log out m' run
    refine ⟨?_, fun k => log.outcomes[k]?.getD .refused, ?_⟩
    · obtain ⟨_, ready, _, _, -, h, -⟩ := runs_bind.mp run
      cases ready with
      | true => exact .inl (runs_pure.mp h).2.1
      | false => exact .inr (runs_pure.mp h).2.1
    · refine run_inTurn run Interface.confined_await fun k o ho => ?_
      have first : Log.fetches [] + k = k := Nat.zero_add k
      rw [first, ho]
      rfl

/-- A server that is up from the second request on. -/
def reviving : Nat → Http.Outcome
  | 0 => .answered 503 (some [])
  | _ => .answered 200 (some (Text.encode "\x7b\"status\":\"healthy\"\x7d"))

/-- With two attempts the second one is good. Where none are allowed one is made, which is not. -/
theorem await_of_sequence_reviving :
    ∃ request, let i : Interface := ⟨"http://10.0.0.7:8080", .ofSeconds 600⟩
      let waited attempts := (i.await (probe .aio) { Readiness.usual with maxAttempts := attempts }).run
        (answering (inTurn reviving)) (.empty 4 4) []
      waited 2 = ((.ok (), .empty 4 4),
        attempts request (.ofMillis 2000) [reviving 0, reviving 1]) ∧
      waited 0 = ((.error (.unready 1 0), .empty 4 4),
        attempts request (.ofMillis 2000) [reviving 0]) := by
  have bad : ¬ (probe .aio).Good (reviving 0) := by
    rintro ⟨status, body, document, answered, low, high, -⟩
    cases answered
    omega
  have healthy : ((Json.read? (Text.encode "\x7b\"status\":\"healthy\"\x7d")).any fun document =>
      (probe .aio).isReady document.settle) = true := by decide +kernel
  obtain ⟨document, read, ready⟩ := (Option.any_eq_true _ _).mp healthy
  have good : (probe .aio).Good (reviving 1) :=
    ⟨200, _, document, rfl, by decide, by decide, read, Probe.isReady_settle.mp ready⟩
  have host : (Net.Url.ofText? "http://10.0.0.7:8080/health").any (·.isWeb) = true := by
    decide +kernel
  obtain ⟨url, reads, web⟩ := (Option.any_eq_true _ _).mp host
  refine ⟨⟨"GET", url, .nothing, .ofMillis 5000⟩, ?_, ?_⟩
  · obtain ⟨sent, -⟩ := await_of_sequence ⟨"http://10.0.0.7:8080", .ofSeconds 600⟩ (probe .aio)
      { Readiness.usual with maxAttempts := 2 } (.empty 4 4)
    obtain ⟨k, hk, goodK, badK, waited⟩ :=
      (sent _ (composed_of_ofText? reads web) reviving).1 ⟨1, by decide, good⟩
    obtain rfl : k = 1 := by
      have : k < 2 := hk
      have : k ≠ 0 := fun h => bad (h ▸ goodK)
      omega
    exact waited
  · obtain ⟨sent, -⟩ := await_of_sequence ⟨"http://10.0.0.7:8080", .ofSeconds 600⟩ (probe .aio)
      { Readiness.usual with maxAttempts := 0 } (.empty 4 4)
    refine (sent _ (composed_of_ofText? reads web) reviving).2 fun k hk => ?_
    obtain rfl : k = 0 := Nat.lt_one_iff.mp hk
    exact bad

end Control

end Sandboxes
