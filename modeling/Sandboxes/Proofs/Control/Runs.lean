import Mathlib.Tactic.Tauto
import Sandboxes.Control.Probe
import Sandboxes.Proofs.Program.Confinement

/-!
# Runs on control interfaces

What single requests to a control interface and calls along a plan exchange. A request is composed
first, and goes out only if its address is a URL of a web server. `Plan.runs_run` says which routes of a
plan are tried.
-/

namespace Sandboxes

/-- Questions that only wait for a sandbox server: requests to it and pauses between them. -/
def Query.IsSandbox : Query → Prop
  | .fetch _ | .pause _ => True
  | _ => False

/-- Whether the reply proves that the sandbox did not act on the request: no connection was opened,
or there is no such route. -/
def Exchange.provesUnapplied : Exchange → Bool
  | ⟨.fetch _, .refused⟩ => true
  | ⟨.fetch _, .answered status _⟩ => status = 404 || status = 405 || status = 501
  | _ => false

namespace Control

open Program

variable {α : Type} {m m' : Memory} {log : Log}

/-! ### Single requests -/

/-- The request that goes out, or the fault of an address that is no URL of a web server. -/
def composed (method address : String) (fields : List (String × String)) (content : Http.Content)
    (limit : Duration) : Except Fault Http.Request :=
  match Net.Url.ofText? address with
  | none =>
    .error (match Net.Url.unhosted? address with
      | some text => .notWeb text
      | none => .noUrl)
  | some url =>
    let url := fields.foldl (fun url (name, value) => url.withField name value) url
    if url.isWeb then .ok { method, url, content, limit } else .error (.notWeb url.text)

/-- What a reply to a request comes to. -/
def outcomeOf (r : Http.Request) : Http.Outcome → Except Fault (Nat × Option Bytes)
  | .refused => .error (.refused r.url.text)
  | .interrupted => .error (.interrupted r.url.text)
  | .answered status body => .ok (status, body)

section Exchange

variable {method address path : String} {fields : List (String × String)} {content : Http.Content}
  {limit : Duration} {i : Interface}

/-- A request can be composed where the address is the URL of a web server, with or without fields. -/
lemma composed_eq_ok {r : Http.Request} :
    composed method address fields content limit = .ok r ↔
      ∃ url, Net.Url.ofText? address = some url ∧ url.isWeb = true ∧
        r = ⟨method, fields.foldl (fun url (name, value) => url.withField name value) url, content,
          limit⟩ := by
  have web : ∀ url : Net.Url,
      (fields.foldl (fun url (name, value) => url.withField name value) url).isWeb = url.isWeb := by
    induction fields with
    | nil => exact fun url => rfl
    | cons field fields ih => exact fun url => ih _
  unfold composed
  cases Net.Url.ofText? address with
  | none => simp
  | some url =>
    simp only [web, Option.some.injEq]
    constructor
    · intro h
      split at h
      · cases h
        exact ⟨url, rfl, ‹_›, rfl⟩
      · cases h
    · rintro ⟨_, rfl, h, rfl⟩
      rw [if_pos h]

lemma composed_of_ofText? {url : Net.Url} (h : Net.Url.ofText? address = some url)
    (web : url.isWeb = true) :
    composed method address [] content limit = .ok { method, url, content, limit } :=
  composed_eq_ok.mpr ⟨url, h, web, rfl⟩

lemma exchange_eq : exchange method address fields content limit =
    match composed method address fields content limit with
    | .error fault => pure (.error fault)
    | .ok r => query (.fetch r) >>= fun reply => pure (outcomeOf r reply) := by
  dsimp only [exchange, composed]
  cases Net.Url.ofText? address with
  | none => rfl
  | some url =>
    dsimp only
    split
    · refine congrArg (query _ >>= ·) (funext fun reply => ?_)
      cases reply <;> rfl
    · rfl

/-- A request that cannot be composed fails unsent; any other one goes out once. -/
lemma runs_exchange {out : Except Fault (Nat × Option Bytes)} :
    (exchange method address fields content limit).Runs m log out m' ↔
      m' = m ∧ match composed method address fields content limit with
        | .error fault => log = [] ∧ out = .error fault
        | .ok r => ∃ reply, log = [⟨.fetch r, reply⟩] ∧ out = outcomeOf r reply := by
  rw [exchange_eq]
  cases composed method address fields content limit with
  | error fault =>
    simp only [runs_pure]
    tauto
  | ok r =>
    simp only [runs_bind_pure, runs_query]
    constructor
    · rintro ⟨reply, ⟨hlog, hm⟩, hout⟩
      exact ⟨hm, reply, hlog, hout⟩
    · rintro ⟨hm, reply, hlog, hout⟩
      exact ⟨reply, ⟨hlog, hm⟩, hout⟩

lemma confined_exchange :
    (exchange method address fields content limit).Confined Query.IsSandbox fun _ => False := by
  rw [exchange_eq]
  cases composed method address fields content limit with
  | error fault => exact .done _
  | ok r => exact (confined_query.mpr trivial).bind_pure

end Exchange

/-! ### Calls of an interface -/

namespace Interface

variable {i : Interface} {content : Http.Content} {path : String} {route : Route}

lemma confined_post : (i.post content route).Confined Query.IsSandbox fun _ => False :=
  confined_exchange.bind_pure.bind_pure

lemma confined_fetch : (i.fetch path route).Confined Query.IsSandbox fun _ => False :=
  confined_exchange.bind_pure

lemma runs_post {out : Except Fault Envelope} :
    (i.post content route).Runs m log out m' ↔
      ∃ sent, (exchange "POST" (i.base ++ route.path) [] (rendered route content) i.limit).Runs
        m log sent m' ∧ out = (sent.bind successful).bind route.decode := by
  simp only [post, send, runs_bind_pure]
  constructor
  · rintro ⟨_, ⟨sent, h, rfl⟩, rfl⟩
    exact ⟨sent, h, rfl⟩
  · rintro ⟨sent, h, rfl⟩
    exact ⟨_, ⟨sent, h, rfl⟩, rfl⟩

lemma runs_fetch {out : Except Fault Bytes} :
    (i.fetch path route).Runs m log out m' ↔
      ∃ sent, (exchange "GET" (i.base ++ route.path) [("path", path)] .nothing i.limit).Runs
        m log sent m' ∧ out = sent.bind successful := by
  simp only [fetch, send, runs_bind_pure]

end Interface

/-! ### Calls along a plan -/

namespace Plan

/-- The route that is tried after a fault of the primary one. -/
def next (p : Plan) (first : Fault) : Option Route :=
  if p.allows first then p.fallback else none

/-- The words for a failure of the primary route after which no other one is tried. -/
def givenUp (p : Plan) (first : Fault) : String :=
  match p.fallback with
  | none => p.failed first
  | some _ => p.failed first ++ " (fallback skipped: request may already have been applied)"

/-- What becomes of a call when the fallback was tried after a fault of the primary route. -/
def afterBoth (p : Plan) (first : Fault) : Except Fault α → Except String α
  | .ok a => .ok a
  | .error second => .error (p.failed first ++ "; fallback: " ++ second.message)

lemma run_eq {p : Plan} {call : Route → Program (Except Fault α)} :
    p.run call = call p.primary >>= fun out => match out with
      | .ok a => pure (.ok a)
      | .error first => match p.next first with
        | none => pure (.error (p.givenUp first))
        | some route => call route >>= fun second => pure (p.afterBoth first second) := by
  unfold run
  refine congrArg (call p.primary >>= ·) (funext fun out => ?_)
  cases out with
  | ok a => rfl
  | error first =>
    cases hf : p.fallback with
    | none => simp [next, givenUp, hf]
    | some route =>
      simp only [next, givenUp, hf]
      split
      · refine congrArg (call route >>= ·) (funext fun second => ?_)
        cases second <;> rfl
      · rfl

/-- A call along a plan either ends with its primary route, or goes on with the fallback. -/
lemma runs_run {p : Plan} {call : Route → Program (Except Fault α)} {out : Except String α} :
    (p.run call).Runs m log out m' ↔
      (∃ a, (call p.primary).Runs m log (.ok a) m' ∧ out = .ok a) ∨
      (∃ first, (call p.primary).Runs m log (.error first) m' ∧ p.next first = none ∧
        out = .error (p.givenUp first)) ∨
      ∃ first route log₁ m₁ log₂ second, (call p.primary).Runs m log₁ (.error first) m₁ ∧
        p.next first = some route ∧ (call route).Runs m₁ log₂ second m' ∧ log = log₁ ++ log₂ ∧
        out = p.afterBoth first second := by
  rw [run_eq, runs_bind]
  constructor
  · rintro ⟨log₁, first, m₁, log₂, h₁, h₂, rfl⟩
    cases first with
    | ok a =>
      obtain ⟨rfl, rfl, rfl⟩ := runs_pure.mp h₂
      exact .inl ⟨a, by simpa using h₁, rfl⟩
    | error first =>
      cases hn : p.next first with
      | none =>
        simp only [hn] at h₂
        obtain ⟨rfl, rfl, rfl⟩ := runs_pure.mp h₂
        exact .inr (.inl ⟨first, by simpa using h₁, hn, rfl⟩)
      | some route =>
        simp only [hn, runs_bind_pure] at h₂
        obtain ⟨second, h₂, rfl⟩ := h₂
        exact .inr (.inr ⟨first, route, log₁, m₁, log₂, second, h₁, hn, h₂, rfl, rfl⟩)
  · rintro (⟨a, h, rfl⟩ | ⟨first, h, hn, rfl⟩ | ⟨first, route, log₁, m₁, log₂, second, h₁, hn, h₂,
      rfl, rfl⟩)
    · exact ⟨log, .ok a, m', [], h, by simp, by simp⟩
    · exact ⟨log, .error first, m', [], h, by simp [hn], by simp⟩
    · refine ⟨log₁, .error first, m₁, log₂, h₁, ?_, rfl⟩
      simp only [hn, runs_bind_pure]
      exact ⟨second, h₂, rfl⟩

lemma confined_run {p : Plan} {call : Route → Program (Except Fault α)} {Q : Query → Prop}
    {S : Memory.Step → Prop} (h : ∀ route, (call route).Confined Q S) : (p.run call).Confined Q S := by
  rw [run_eq]
  refine (h p.primary).bind fun out => ?_
  cases out with
  | ok a => exact .done _
  | error first =>
    dsimp only
    cases p.next first with
    | none => exact .done _
    | some route => exact (h route).bind_pure

end Plan

namespace Interface

variable {i : Interface} {p : Plan} {content : Http.Content} {path : String}

/-- The result of a call: what was answered, or the failure of every route. -/
def settled : Except String Envelope → Envelope
  | .ok e => e
  | .error words => .failure words

lemma runs_call {e : Envelope} :
    (i.call p content).Runs m log e m' ↔
      ∃ out, (p.run (i.post content)).Runs m log out m' ∧ e = settled out := by
  rw [← runs_bind_pure]
  unfold call
  refine iff_of_eq (congrArg (Runs · m log e m') (congrArg _ (funext fun out => ?_)))
  cases out <;> rfl

lemma runs_download {r : Except Failure Bytes} :
    (i.download p path).Runs m log r m' ↔
      ∃ out, (p.run (i.fetch path)).Runs m log out m' ∧ r = out.mapError .download :=
  runs_bind_pure

lemma confined_call : (i.call p content).Confined Query.IsSandbox fun _ => False := by
  refine (Plan.confined_run fun _ => confined_post).bind fun out => ?_
  cases out <;> exact .done _

lemma confined_download : (i.download p path).Confined Query.IsSandbox fun _ => False :=
  (Plan.confined_run fun _ => confined_fetch).bind_pure

end Interface

/-! ### Waiting -/

namespace Interface

variable {i : Interface} {p : Probe} {r : Readiness}

lemma confined_isReady : (i.isReady p r).Confined Query.IsSandbox fun _ => False := by
  refine Confined.bind confined_exchange.bind_pure.bind_pure fun out => ?_
  cases out <;> exact .done _

lemma confined_poll (attempts : Nat) :
    (i.poll p r attempts).Confined Query.IsSandbox fun _ => False := by
  induction attempts with
  | zero => exact .done _
  | succ left ih =>
    refine Confined.bind confined_isReady fun ready => ?_
    cases ready with
    | true => exact .done _
    | false =>
      rw [if_neg Bool.false_ne_true]
      split
      · exact Confined.bind (confined_query.mpr trivial) fun _ => ih
      · exact ih

/-- Waiting for a sandbox asks nothing but the sandbox server, and time to pass. -/
lemma confined_await : (i.await p r).Confined Query.IsSandbox fun _ => False := by
  refine (confined_poll r.attempts).bind fun ready => ?_
  cases ready <;> exact .done _

end Interface

end Control

end Sandboxes
