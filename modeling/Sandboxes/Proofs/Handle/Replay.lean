import Mathlib.Tactic.ByContra
import Sandboxes.Proofs.Handle.Action

/-!
# Replay

Which requests an action comes to, whatever the sandbox server does with each of them. A call along a
plan is a list of attempts, each on one route. An action with side effects is attempted again only
after a reply which proves that the sandbox did not act, so that only its last attempt may have been
applied; any other action goes on to the fallback after every fault.
-/

namespace Sandboxes

open Program

namespace Control

variable {α : Type} {m m' : Memory} {log : Log}

/-! ### Faults and replies -/

section Exchange

variable {method address : String} {fields : List (String × String)} {content : Http.Content}
  {limit : Duration} {sent : Except Fault (Nat × Option Bytes)}

/-- A fault that proves the request unapplied comes from a request that was not sent, or from a reply
that proves it. -/
lemma provesUnapplied_of_runs_exchange {fault : Fault}
    (run : (exchange method address fields content limit).Runs m log sent m')
    (failed : sent.bind successful = .error fault) (proves : fault.provesUnapplied = true) :
    ∀ x ∈ log, x.provesUnapplied = true := by
  obtain ⟨-, h⟩ := runs_exchange.mp run
  cases hc : composed method address fields content limit with
  | error fault => simp_all
  | ok r =>
    simp only [hc] at h
    obtain ⟨reply, rfl, rfl⟩ := h
    suffices Exchange.provesUnapplied ⟨.fetch r, reply⟩ = true by simpa using this
    cases reply with
    | refused => rfl
    | interrupted =>
      cases failed
      cases proves
    | answered status body =>
      simp only [outcomeOf, Except.bind, successful] at failed
      split at failed
      · cases body <;> cases failed
        cases proves
      · cases failed
        exact proves

end Exchange

/-- An answer that cannot be read proves nothing. -/
lemma not_provesUnapplied_of_decode {r : Route} {bytes : Bytes} {fault : Fault}
    (h : r.decode bytes = .error fault) : fault.provesUnapplied = false := by
  dsimp only [Route.decode] at h
  split at h
  · split at h <;> cases h
    rfl
  · split at h
    · cases h
      rfl
    · split at h <;> cases h
      rfl

namespace Interface

variable {i : Interface} {content : Http.Content} {path : String} {route : Route} {fault : Fault}

lemma provesUnapplied_of_runs_post (run : (i.post content route).Runs m log (.error fault) m')
    (proves : fault.provesUnapplied = true) : ∀ x ∈ log, x.provesUnapplied = true := by
  obtain ⟨sent, hsent, hout⟩ := runs_post.mp run
  cases hs : sent.bind successful with
  | error first =>
    rw [hs] at hout
    cases hout
    exact provesUnapplied_of_runs_exchange hsent hs proves
  | ok bytes =>
    rw [hs] at hout
    simp [not_provesUnapplied_of_decode hout.symm] at proves

lemma provesUnapplied_of_runs_fetch (run : (i.fetch path route).Runs m log (.error fault) m')
    (proves : fault.provesUnapplied = true) : ∀ x ∈ log, x.provesUnapplied = true := by
  obtain ⟨sent, hsent, hout⟩ := runs_fetch.mp run
  exact provesUnapplied_of_runs_exchange hsent hout.symm proves

end Interface

/-! ### Attempts -/

/-- One attempt of a call: its route, what it exchanged, and its fault unless it was answered. -/
structure Attempt where
  route : Route
  log : Log
  fault : Option Fault

/-- The fault of an outcome. -/
def fault? : Except Fault α → Option Fault
  | .ok _ => none
  | .error fault => some fault

namespace Attempt

/-- Whether the reply to the attempt proves that the sandbox did not act on it. Nothing is exchanged
where the address is no URL of a web server. -/
def provesUnapplied (t : Attempt) : Bool :=
  t.log.all Exchange.provesUnapplied

/-- Whether the attempt is one of that call. -/
def IsOf (t : Attempt) (call : Route → Program (Except Fault α)) : Prop :=
  ∃ m out m', (call t.route).Runs m t.log out m' ∧ t.fault = fault? out

/-- The attempt exchanges that request and nothing else, or nothing where there is no request. -/
def Exchanges (t : Attempt) : Except Fault Http.Request → Prop
  | .error _ => t.log = []
  | .ok r => ∃ reply, t.log = [⟨.fetch r, reply⟩]

lemma exchanges_of_runs_exchange {method address : String} {fields : List (String × String)}
    {content : Http.Content} {limit : Duration} {sent : Except Fault (Nat × Option Bytes)}
    {t : Attempt} (run : (exchange method address fields content limit).Runs m t.log sent m') :
    t.Exchanges (composed method address fields content limit) := by
  obtain ⟨-, h⟩ := runs_exchange.mp run
  cases hc : composed method address fields content limit with
  | error fault =>
    rw [hc] at h
    exact h.1
  | ok r =>
    rw [hc] at h
    obtain ⟨reply, hlog, -⟩ := h
    exact ⟨reply, hlog⟩

end Attempt

/-- The attempts that a plan allows: the primary route, then the fallback if the fault of the primary
one allows it. -/
inductive Plan.Tried (p : Plan) : List Attempt → Prop
  | primary {t : Attempt} (route : t.route = p.primary)
      (last : ∀ fault, t.fault = some fault → p.next fault = none) : Tried p [t]
  | both {t u : Attempt} {fault : Fault} (route : t.route = p.primary)
      (failed : t.fault = some fault) (next : p.next fault = some u.route) : Tried p [t, u]

/-- A call along a plan is a list of attempts that the plan allows. -/
lemma Plan.exists_attempts {p : Plan} {call : Route → Program (Except Fault α)}
    {out : Except String α} (run : (p.run call).Runs m log out m') :
    ∃ ts, p.Tried ts ∧ (∀ t ∈ ts, t.IsOf call) ∧ log = ts.flatMap Attempt.log := by
  obtain ⟨a, h, -⟩ | ⟨fault, h, hn, -⟩ | ⟨fault, route, log₁, m₁, log₂, second, h₁, hn, h₂, rfl, -⟩ :=
    runs_run.mp run
  · refine ⟨[⟨p.primary, log, none⟩], .primary rfl (by simp), ?_, by simp⟩
    simpa [Attempt.IsOf] using ⟨m, .ok a, ⟨m', h⟩, rfl⟩
  · refine ⟨[⟨p.primary, log, some fault⟩], .primary rfl (by simpa using hn), ?_, by simp⟩
    simpa [Attempt.IsOf] using ⟨m, .error fault, ⟨m', h⟩, rfl⟩
  · refine ⟨[⟨p.primary, log₁, some fault⟩, ⟨route, log₂, fault? second⟩], .both rfl rfl hn, ?_,
      by simp⟩
    simpa [Attempt.IsOf] using
      ⟨⟨m, .error fault, ⟨m₁, h₁⟩, rfl⟩, ⟨m₁, second, ⟨m', h₂⟩, rfl⟩⟩

/-! ### Attempts of actions -/

namespace Action

/-- The request of an action on a route. -/
def request (i : Interface) (a : Action) (r : Route) : Except Fault Http.Request :=
  match a with
  | operate o => composed "POST" (i.base ++ r.path) [] (Interface.rendered r o.content) i.limit
  | download path => composed "GET" (i.base ++ r.path) [("path", path)] .nothing i.limit

/-- Whether the attempt is one of the action's, on the interface. -/
def Attempts (i : Interface) (t : Attempt) : Action → Prop
  | operate o => t.IsOf (i.post o.content)
  | download path => t.IsOf (i.fetch path)

variable {i : Interface} {t : Attempt} {a : Action}

/-- An attempt exchanges the request of its route, once, unless that cannot be composed. -/
lemma Attempts.exchanges (h : a.Attempts i t) : t.Exchanges (a.request i t.route) := by
  cases a with
  | operate o =>
    obtain ⟨m, out, m', run, -⟩ := h
    obtain ⟨sent, hsent, -⟩ := Interface.runs_post.mp run
    exact Attempt.exchanges_of_runs_exchange hsent
  | download path =>
    obtain ⟨m, out, m', run, -⟩ := h
    obtain ⟨sent, hsent, -⟩ := Interface.runs_fetch.mp run
    exact Attempt.exchanges_of_runs_exchange hsent

lemma Attempts.provesUnapplied {fault : Fault} (h : a.Attempts i t) (failed : t.fault = some fault)
    (proves : fault.provesUnapplied = true) : t.provesUnapplied = true := by
  refine List.all_eq_true.mpr ?_
  cases a with
  | operate o =>
    obtain ⟨m, out, m', run, hout⟩ := h
    cases out with
    | ok e => simp [failed, fault?] at hout
    | error first =>
      cases failed.symm.trans hout
      exact Interface.provesUnapplied_of_runs_post run proves
  | download path =>
    obtain ⟨m, out, m', run, hout⟩ := h
    cases out with
    | ok e => simp [failed, fault?] at hout
    | error first =>
      cases failed.symm.trans hout
      exact Interface.provesUnapplied_of_runs_fetch run proves

variable {v : Variant} {fault : Fault}

lemma provesUnapplied_of_next {route : Route} (effects : a.hasSideEffects = true)
    (hn : (a.plan v).next fault = some route) : fault.provesUnapplied = true := by
  by_contra h
  simp [Plan.next, Plan.allows, plan_replay, effects, h] at hn

lemma next_eq_fallback (harmless : a.hasSideEffects = false) :
    (a.plan v).next fault = (a.plan v).fallback := by
  simp [Plan.next, Plan.allows, plan_replay, harmless]

end Action

end Control

namespace Handle

open Control

variable {h : Handle} {a : Action} {m m' : Memory} {log : Log} {r : Action.Answer}

/-- An action on an open handle is a list of attempts that its plan allows. -/
lemma exists_attempts (opened : h.number ∉ m.closed) (run : (h.act a).Runs m log r m') :
    ∃ ts, (a.plan h.variant).Tried ts ∧ (∀ t ∈ ts, a.Attempts h.interface t) ∧
      log = ts.flatMap Attempt.log := by
  rw [runs_act_open opened] at run
  cases a with
  | operate o =>
    obtain ⟨e, hcall, -⟩ := runs_bind_pure.mp run
    obtain ⟨out, hrun, -⟩ := Interface.runs_call.mp hcall
    exact Plan.exists_attempts hrun
  | download path =>
    obtain ⟨content, hcall, -⟩ := runs_bind_pure.mp run
    obtain ⟨out, hrun, -⟩ := Interface.runs_download.mp hcall
    exact Plan.exists_attempts hrun

/-- An action with side effects comes to at most two attempts, on its primary route first, of which
only the last one may have been applied. Any other action is tried on the fallback of its plan after
every fault of the primary route, once, and never after an answer. -/
theorem attempts_of_act (h : Handle) (a : Action) (run : (h.act a).Runs m log r m') :
    ∃ ts : List Attempt, log = ts.flatMap Attempt.log ∧
      (∀ t ∈ ts, a.Attempts h.interface t ∧ t.Exchanges (a.request h.interface t.route)) ∧
      (h.number ∉ m.closed → ts ≠ []) ∧
      (a.hasSideEffects = true → ts.length ≤ 2 ∧
        (∀ t ∈ ts.head?, t.route = a.task.primary) ∧
        (ts.countP fun t => !t.provesUnapplied) ≤ 1 ∧
        ∀ t ∈ ts.dropLast, t.provesUnapplied = true) ∧
      (a.hasSideEffects = false → h.number ∉ m.closed →
        ∃ t, t.route = a.task.primary ∧
          (t.fault = none ∨ (a.plan h.variant).fallback = none → ts = [t]) ∧
          ∀ fault route, t.fault = some fault → (a.plan h.variant).fallback = some route →
            ∃ u, u.route = route ∧ ts = [t, u]) := by
  by_cases closed : h.number ∈ m.closed
  · obtain ⟨rfl, -, -⟩ := (runs_act_closed closed).mp run
    exact ⟨[], by simp [closed]⟩
  · obtain ⟨ts, htried, hof, rfl⟩ := exists_attempts closed run
    refine ⟨ts, rfl, fun t ht => ⟨hof t ht, (hof t ht).exchanges⟩, ?_, ?_, ?_⟩
    · rintro - rfl
      cases htried
    · intro effects
      cases htried with
      | primary route last =>
        refine ⟨by simp, by simpa using route, ?_, by simp⟩
        exact List.countP_le_length
      | @both t u fault route failed next =>
        have unapplied : t.provesUnapplied = true :=
          (hof t (by simp)).provesUnapplied failed (Action.provesUnapplied_of_next effects next)
        refine ⟨by simp, by simpa using route, ?_, by simpa using unapplied⟩
        rw [List.countP_cons_of_neg (by simp [unapplied])]
        exact List.countP_le_length
    · intro harmless _
      cases htried with
      | @primary t route last =>
        refine ⟨t, by simpa using route, fun _ => rfl, fun fault fallback failed hf => ?_⟩
        have := last fault failed
        rw [Action.next_eq_fallback harmless, hf] at this
        cases this
      | @both t u fault route failed next =>
        rw [Action.next_eq_fallback harmless] at next
        refine ⟨t, by simpa using route, ?_, fun _ fallback _ hf => ⟨u, ?_, rfl⟩⟩
        · rintro (hnone | hnone)
          · exact absurd (failed.symm.trans hnone) (by simp)
          · exact absurd (next.symm.trans hnone) (by simp)
        · exact Option.some.inj (next.symm.trans hf)

/-- The handle of a container that was launched on the local daemon. -/
def launched : Handle :=
  ofEndpoint (.aio .usual) .docker ⟨some "aio-sandbox-0badc0de", "10.0.0.7", .created⟩ 0

/-- A command whose reply is lost is tried once, although there is a fallback. -/
theorem attempts_of_lost_exec :
    ∃ r e m', let log : Log := [⟨.fetch r, Http.Outcome.interrupted⟩]
      (launched.act (.operate (.exec "main" "/tmp" "make"))).Runs (.empty 4 4) log e m' ∧
        ∃ ts : List Attempt, log = ts.flatMap Attempt.log ∧
          ∀ t ∈ ts.dropLast, t.provesUnapplied = true := by
  let o : Operation := .exec "main" "/tmp" "make"
  let url : Net.Url := ⟨"http", "10.0.0.7", some 8080, "/api/v1/shell/exec", none, none⟩
  let r : Http.Request := ⟨"POST", url, o.content, launched.interface.limit⟩
  have address : Net.Url.ofText? (launched.interface.base ++ Task.exec.primary.path) = some url := by
    decide +kernel
  have sent : (launched.interface.post o.content Task.exec.primary).Runs (.empty 4 4)
      [⟨.fetch r, Http.Outcome.interrupted⟩] (.error (.interrupted r.url.text)) (.empty 4 4) := by
    refine Interface.runs_post.mpr ⟨.error (.interrupted r.url.text), runs_exchange.mpr ⟨rfl, ?_⟩, rfl⟩
    rw [composed_of_ofText? address rfl]
    exact ⟨_, rfl, rfl⟩
  have tried := (Plan.runs_run (p := o.plan .aio)).mpr (.inr (.inl ⟨_, sent, rfl, rfl⟩))
  have called := Interface.runs_call.mpr ⟨_, tried, rfl⟩
  have run := (runs_act_open (h := launched) (a := .operate o) List.not_mem_nil).mpr
    (runs_bind_pure.mpr ⟨_, called, rfl⟩)
  obtain ⟨ts, hlog, -, -, heffects, -⟩ := attempts_of_act launched (.operate o) run
  exact ⟨r, _, _, run, ts, hlog, (heffects rfl).2.2.2⟩

end Handle

end Sandboxes
