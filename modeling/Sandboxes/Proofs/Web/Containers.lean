import Sandboxes.Proofs.Handle.Ownership
import Sandboxes.Proofs.Provider.Instances
import Sandboxes.Proofs.Service.Cleanup
import Sandboxes.Proofs.Web.Responses

/-!
# Containers of others

The web interface has a container runtime remove what it had launched for a health check, and nothing
else. A health check destroys its own handle only, which is new and therefore open; the handles of
containers that were found stay as they are. All other requests at most look for the container that
they name.
-/

namespace Sandboxes

open Program Container

/-! ### Calls of the container runtime -/

/-- Whether the question is for the container runtime outside. -/
def Query.isCall : Query → Bool
  | .launch _ | .attach _ | .remove _ => true
  | _ => false

namespace Log

variable {log log' : Log}

/-- What was asked of the container runtime. -/
def calls (log : Log) : Log :=
  log.filter (·.query.isCall)

/-- The name under which an exchange launched a container. -/
def launched? : Exchange → Option String
  | ⟨.launch spec, .ok _⟩ => some spec.name
  | _ => none

/-- The name of the container that an exchange asks to be removed. -/
def removed? : Exchange → Option String
  | ⟨.remove name, _⟩ => some name
  | _ => none

/-- The names under which containers were launched. -/
def launched (log : Log) : List String :=
  log.filterMap launched?

/-- The names of the containers that were asked to be removed. -/
def removed (log : Log) : List String :=
  log.filterMap removed?

/-- Wherever a container was launched, it is the one that was asked for. -/
def Obliging (log : Log) : Prop :=
  ∀ spec (e : Endpoint), ⟨.launch spec, Except.ok e⟩ ∈ log →
    e.name = some spec.name ∧ e.ownership = .created

/-- At most one container is launched, and it is removed at once. -/
inductive Throwaway : Log → Prop
  | none : Throwaway []
  | failed (spec : Spec) (failure : Failure) : Throwaway [⟨.launch spec, .error failure⟩]
  | removed (spec : Spec) (e : Endpoint) (out : Except Failure Unit) :
      Throwaway [⟨.launch spec, .ok e⟩, ⟨.remove spec.name, out⟩]

@[simp] lemma calls_append : (log ++ log').calls = log.calls ++ log'.calls :=
  List.filter_append ..

@[simp] lemma launched_append : (log ++ log').launched = log.launched ++ log'.launched :=
  List.filterMap_append

@[simp] lemma removed_append : (log ++ log').removed = log.removed ++ log'.removed :=
  List.filterMap_append

lemma filterMap_calls {f : Exchange → Option String}
    (h : ∀ x, x.query.isCall = false → f x = none) : log.calls.filterMap f = log.filterMap f := by
  rw [calls, List.filterMap_filter]
  refine congrArg (List.filterMap · log) (funext fun x => ?_)
  cases hx : x.query.isCall with
  | true => rfl
  | false => exact (h x hx).symm

lemma launched_calls : log.calls.launched = log.launched := by
  refine filterMap_calls ?_
  rintro ⟨q, reply⟩ h
  cases q <;> first | rfl | cases h

lemma removed_calls : log.calls.removed = log.removed := by
  refine filterMap_calls ?_
  rintro ⟨q, reply⟩ h
  cases q <;> first | rfl | cases h

lemma Throwaway.removed_eq (h : Throwaway log) : log.removed = log.launched := by
  cases h <;> rfl

end Log

/-- Waiting for a sandbox calls no container runtime. -/
lemma Program.calls_of_confined {α : Type} {p : Program α} {S : Memory.Step → Prop} {m m' : Memory}
    {log : Log} {a : α} (h : p.Confined Query.IsSandbox S) (run : p.Runs m log a m') :
    log.calls = [] := by
  refine List.filter_eq_nil_iff.mpr fun x hx => ?_
  have sandbox := h.asked run x hx
  obtain ⟨q, reply⟩ := x
  cases q with
  | fetch request => exact Bool.false_ne_true
  | pause time => exact Bool.false_ne_true
  | _ => exact sandbox.elim

/-! ### Making and getting sandboxes -/

namespace Provider

variable {p : Provider} {id : String} {m m' : Memory} {log : Log} {r : Except Failure Handle}

/-- Making a sandbox asks for one container under a name that the profile gives. -/
lemma log_of_runs_create (delegated : p.provisioner = .delegated) (run : p.create.Runs m log r m') :
    ∃ number out, log = [⟨.draw, number⟩,
        ⟨.launch (p.profile.template.instantiate (p.profile.containerName number)), out⟩] ∧
      ((∃ failure, out = .error failure ∧ r = .error failure ∧ m' = m) ∨
        ∃ e, out = .ok e ∧ r = .ok (.ofEndpoint p.profile .delegated e m.made) ∧
          m' = { m with made := m.made + 1 }) := by
  obtain ⟨_, number, _, log₁, hdraw, hrest, rfl⟩ := runs_bind.mp run
  obtain ⟨rfl, rfl⟩ := runs_query.mp hdraw
  obtain ⟨log₂, out, m₁, log₃, hlaunch, hend, rfl⟩ := runs_bind.mp hrest
  rw [delegated] at hlaunch hend
  obtain ⟨rfl, rfl⟩ := runs_query.mp hlaunch
  cases out with
  | error failure =>
    obtain ⟨rfl, rfl, rfl⟩ := runs_pure.mp hend
    exact ⟨number, _, rfl, .inl ⟨failure, rfl, rfl, rfl⟩⟩
  | ok e =>
    obtain ⟨handle, hnew, rfl⟩ := runs_bind_pure.mp hend
    obtain ⟨rfl, rfl, rfl⟩ := Handle.runs_new.mp hnew
    exact ⟨number, _, rfl, .inr ⟨e, rfl, rfl, rfl⟩⟩

lemma calls_of_runs_get (delegated : p.provisioner = .delegated) (numbered : m.Numbered)
    (run : (p.get id).Runs m log r m') :
    (log.calls = [] ∨ ∃ out, log.calls = [⟨.attach id, out⟩]) ∧ m'.Numbered := by
  cases hf : (m.kept p.profile.variant).find? id with
  | some h =>
    -- A kept handle is given out as it is.
    obtain ⟨rfl, rfl, rfl⟩ := (runs_get_kept hf).mp run
    refine ⟨.inl rfl, ?_⟩
    intro n hn
    simpa using numbered n (by simpa using hn)
  | none =>
    obtain ⟨out, addresses, hattach, result⟩ := of_runs_get_new hf run
    rw [delegated] at hattach
    obtain ⟨rfl, -⟩ := runs_query.mp hattach
    refine ⟨.inr ⟨out, rfl⟩, ?_⟩
    rcases result with ⟨failure, -, -, rfl⟩ | ⟨e, -, -, rfl⟩
    · exact numbered
    · intro n hn
      have closed : n ∈ m.closed := by simpa [remembering] using hn
      have made : n < m.made + 1 := Nat.lt_succ_of_lt (numbered n closed)
      simpa [remembering] using made

end Provider

/-! ### Health checks -/

namespace Handle

variable {p : Profile} {e : Endpoint} {number : Nat} {name : String} {m m' : Memory} {log : Log}
  {done : Bool}

/-- A handle that was made for a container of its own is destroyed together with it. -/
lemma log_of_runs_destroy_new (named : e.name = some name) (created : e.ownership = .created)
    (owned : p.owns name = true) (numbered : m.Numbered)
    (run : (ofEndpoint p .delegated e m.made).destroy.Runs { m with made := m.made + 1 } log done m') :
    (∃ out, log = [⟨.remove name, out⟩]) ∧ m'.Numbered := by
  -- The number is fresh, so no earlier handle can have closed it.
  have goes : teardownOf p e = some name :=
    teardownOf_eq_some.mpr ⟨by rw [created]; decide, named, owned⟩
  have numbered' : { m with made := m.made + 1 }.Numbered := numbered.apply .number (by simp)
  rw [runs_destroy_open numbered.made_not_mem] at run
  obtain ⟨addresses, hm⟩ := steady_tearDown.exists_addresses run
  constructor
  · rcases log_of_runs_tearDown run with ⟨none, -⟩ | ⟨other, out, some, rfl⟩
    · rw [goes] at none
      cases none
    · rw [goes] at some
      cases some
      exact ⟨out, rfl⟩
  · rw [hm]
    exact numbered_afterClose numbered' (Nat.lt_succ_self m.made)

end Handle

namespace Service

variable {s : Service} {m m' : Memory} {log : Log}

lemma throwaway_of_runs_tryOut {v : Variant} {out : Except Failure Unit}
    (delegated : s.provisioner = .delegated) (obliging : log.Obliging) (numbered : m.Numbered)
    (run : (s.tryOut v).Runs m log out m') : log.calls.Throwaway ∧ m'.Numbered := by
  obtain ⟨log₁, made, m₁, log₂, h₁, h₂, rfl⟩ := runs_bind.mp run
  obtain ⟨number, launched, rfl, result⟩ :=
    Provider.log_of_runs_create (p := s.provider v) delegated h₁
  rcases result with ⟨failure, rfl, rfl, rfl⟩ | ⟨e, rfl, rfl, rfl⟩
  · obtain ⟨rfl, rfl, rfl⟩ := runs_pure.mp h₂
    exact ⟨.failed _ failure, numbered⟩
  · obtain ⟨waiting, outcome, m₂, log₃, h₃, h₄, rfl⟩ := runs_bind.mp h₂
    obtain ⟨done, hdestroy, rfl⟩ := runs_bind_pure.mp h₄
    have quiet := calls_of_confined Handle.confined_verifyReady h₃
    obtain rfl := Handle.confined_verifyReady.memory_eq h₃
    obtain ⟨named, created⟩ := obliging _ e (List.mem_cons_of_mem _ List.mem_cons_self)
    obtain ⟨⟨removal, rfl⟩, numbered'⟩ := Handle.log_of_runs_destroy_new named created
      Profile.owns_containerName numbered hdestroy
    refine ⟨?_, numbered'⟩
    rw [Log.calls_append, Log.calls_append, quiet]
    exact .removed _ e removal

lemma throwaway_of_runs_checkHealth {v : Option Variant} {health : Health}
    (delegated : s.provisioner = .delegated) (obliging : log.Obliging) (numbered : m.Numbered)
    (run : (s.checkHealth v).Runs m log health m') : log.calls.Throwaway ∧ m'.Numbered := by
  obtain ⟨started, ended, tried, outcome, htry, rfl, -⟩ := runs_checkHealth.mp run
  have obliging' : tried.Obliging := fun spec e hmem =>
    obliging spec e (List.mem_cons_of_mem _ (List.mem_append_left _ hmem))
  obtain ⟨throwaway, numbered'⟩ := throwaway_of_runs_tryOut delegated obliging' numbered htry
  have clock : Log.calls (⟨.clock, started⟩ :: (tried ++ [⟨.clock, ended⟩])) = tried.calls := by
    simp [Log.calls, Query.isCall]
  rw [clock]
  exact ⟨throwaway, numbered'⟩

end Service

/-! ### Requests -/

namespace Web

variable {settings : Settings} {r : Request} {m m' : Memory} {log calls : Log} {a : Answer}

/-- The request is none of the container runtime's business: its path leads nowhere, it is refused,
its endpoint has nothing to do with containers, or it gives an unknown tag. -/
inductive Request.IsIdle (r : Request) : Prop
  | lost (path : r.endpoint? = none)
  | refused (h : r.Refused)
  | simple {e : Endpoint} (path : r.endpoint? = some e) (h : e.takesTag = false)
  | tag {tag : String} (mem : tag ∈ r.tags) (unknown : Variant.ofTag? tag = none)

/-- What a request may ask of the container runtime. -/
inductive Business (r : Request) : Log → Prop
  | nothing : Business r []
  | status {segment : Bytes} {id : String} {v : Option Variant} {out : Except Failure Container.Endpoint}
      (asks : r.Asks (.status segment)) (name : pathName segment = .ok id)
      (query : queryVariant r.query = .ok v) : Business r [⟨.attach id, out⟩]
  | health {calls : Log} {v : Option Variant} (asks : r.Asks .health)
      (query : queryVariant r.query = .ok v) (h : calls.Throwaway) : Business r calls

lemma not_isIdle_of_asks {e : Endpoint} {v : Option Variant} (asks : r.Asks e)
    (takes : e.takesTag = true) (query : queryVariant r.query = .ok v)
    (name : ∀ segment, e = .status segment → ∃ id, pathName segment = .ok id) : ¬ r.IsIdle := by
  -- A query that can be read gives at most one tag, a known one.
  have readable : ¬ (2 ≤ r.tags.length ∨ ∃ tag ∈ r.tags, Variant.ofTag? tag = none) := by
    intro h
    obtain ⟨refusal, unread⟩ := queryVariant_of_tags h
    rw [query] at unread
    cases unread
  have same : ∀ {e'}, r.endpoint? = some e' → e' = e := fun path =>
    Option.some.inj (path.symm.trans asks.1)
  intro idle
  cases idle with
  | lost path =>
    rw [asks.1] at path
    cases path
  | simple path simple =>
    rw [same path, takes] at simple
    cases simple
  | tag mem unknown => exact readable (.inr ⟨_, mem, unknown⟩)
  | refused h =>
    cases h with
    | method _ get head _ => exact asks.2.elim get head
    | name other unreadable =>
      obtain ⟨id, named⟩ := name _ (same other.1).symm
      rw [decode?_of_pathName named] at unreadable
      cases unreadable
    | tags _ _ several => exact readable (.inl several)

lemma Business.eq_nil_of_isIdle (h : Business r calls) (idle : r.IsIdle) : calls = [] := by
  cases h with
  | nothing => rfl
  | status asks name query =>
    refine absurd idle (not_isIdle_of_asks asks rfl query ?_)
    rintro _ ⟨⟩
    exact ⟨_, name⟩
  | health asks query h =>
    refine absurd idle (not_isIdle_of_asks asks rfl query ?_)
    rintro _ ⟨⟩

lemma Business.removed_eq (h : Business r calls) : calls.removed = calls.launched := by
  cases h with
  | nothing => rfl
  | status asks name query => rfl
  | health asks query h => exact h.removed_eq

lemma Business.asks_health (h : Business r calls) (changes : calls.launched ≠ [] ∨ calls.removed ≠ []) :
    r.Asks .health := by
  cases h with
  | nothing => exact (changes.elim (· rfl) (· rfl)).elim
  | status asks name query => exact (changes.elim (· rfl) (· rfl)).elim
  | health asks query h => exact asks

lemma Business.throwaway (h : Business r calls) (asks : r.Asks .health) : calls.Throwaway := by
  cases h with
  | nothing => exact .none
  | status other name query => cases asks.1.symm.trans other.1
  | health other query h => exact h

lemma Business.eq_attach {segment : Bytes} (h : Business r calls) (asks : r.Asks (.status segment)) :
    calls = [] ∨ ∃ id out, pathName segment = .ok id ∧ calls = [⟨.attach id, out⟩] := by
  cases h with
  | nothing => exact .inl rfl
  | @status other id v out asks' name query =>
    cases asks.1.symm.trans asks'.1
    exact .inr ⟨id, out, name, rfl⟩
  | health asks' query h => cases asks.1.symm.trans asks'.1

lemma business_of_runs_respond (obliging : log.Obliging) (numbered : m.Numbered)
    (run : (respond ⟨settings, .delegated⟩ r).Runs m log a m') :
    Business r log.calls ∧ m'.Numbered := by
  cases responded_of_runs run with
  | unknown path => exact ⟨.nothing, numbered⟩
  | preferred path post => exact ⟨.nothing, numbered⟩
  | refused path get head post => exact ⟨.nothing, numbered⟩
  | @given e _ a _ asks run =>
    cases e with
    | liveness =>
      obtain ⟨rfl, -, rfl⟩ := runs_pure.mp run
      exact ⟨.nothing, numbered⟩
    | variant =>
      obtain ⟨rfl, -, rfl⟩ := runs_pure.mp run
      exact ⟨.nothing, numbered⟩
    | compare =>
      obtain ⟨rfl, -, rfl⟩ := runs_pure.mp run
      exact ⟨.nothing, numbered⟩
    | status segment =>
      have run := runs_giveStatus.mp run
      cases name : pathName segment with
      | error refusal =>
        rw [name] at run
        obtain ⟨rfl, -, rfl⟩ := run
        exact ⟨.nothing, numbered⟩
      | ok id =>
        cases query : queryVariant r.query with
        | error refusal =>
          rw [name, query] at run
          obtain ⟨rfl, -, rfl⟩ := run
          exact ⟨.nothing, numbered⟩
        | ok v =>
          rw [name, query] at run
          obtain ⟨out, run, -⟩ := run
          obtain ⟨calls | ⟨out, calls⟩, numbered'⟩ := Provider.calls_of_runs_get rfl numbered run
          · rw [calls]
            exact ⟨.nothing, numbered'⟩
          · rw [calls]
            exact ⟨.status asks name query, numbered'⟩
    | health =>
      have run := runs_giveHealth.mp run
      cases query : queryVariant r.query with
      | error refusal =>
        rw [query] at run
        obtain ⟨rfl, -, rfl⟩ := run
        exact ⟨.nothing, numbered⟩
      | ok v =>
        rw [query] at run
        obtain ⟨health, run, -⟩ := run
        obtain ⟨throwaway, numbered'⟩ :=
          Service.throwaway_of_runs_checkHealth rfl obliging numbered run
        exact ⟨.health asks query throwaway, numbered'⟩

/-! ### Requests in turn -/

/-- A request, what was exchanged for it and what it was answered. -/
structure Visit where
  request : Request
  log : Log
  answer : Answer

/-- The requests are answered in turn, from one memory to another. -/
inductive Visits (s : Service) : Memory → List Visit → Memory → Prop
  | none (m : Memory) : Visits s m [] m
  | cons {m m₁ m' : Memory} {v : Visit} {vs : List Visit}
      (run : (respond s v.request).Runs m v.log v.answer m₁) (rest : Visits s m₁ vs m') :
      Visits s m (v :: vs) m'

variable {vs : List Visit}

/-- All that was exchanged. -/
def exchanged (vs : List Visit) : Log :=
  vs.flatMap Visit.log

lemma business_of_visits (visits : Visits ⟨settings, .delegated⟩ m vs m') (numbered : m.Numbered)
    (obliging : ∀ v ∈ vs, v.log.Obliging) : ∀ v ∈ vs, Business v.request v.log.calls := by
  -- Between requests only the numbering of handles has to be kept up.
  induction visits with
  | none m => simp
  | @cons _ _ _ v vs run _ ih =>
    obtain ⟨business, numbered'⟩ := business_of_runs_respond (obliging v (by simp)) numbered run
    intro w hw
    rcases List.mem_cons.mp hw with rfl | hw
    · exact business
    · exact ih numbered' (fun u hu => obliging u (List.mem_cons_of_mem v hu)) w hw

lemma removed_exchanged (balanced : ∀ v ∈ vs, v.log.removed = v.log.launched) :
    (exchanged vs).removed = (exchanged vs).launched := by
  induction vs with
  | nil => rfl
  | cons v vs ih =>
    have first : v.log.removed = v.log.launched := balanced v List.mem_cons_self
    have rest := ih fun w hw => balanced w (List.mem_cons_of_mem v hw)
    have split : exchanged (v :: vs) = v.log ++ exchanged vs := List.flatMap_cons
    rw [split, Log.removed_append, Log.launched_append, first, rest]

/-- Whatever is requested of the web interface, of a container runtime that launches what it is asked
for: the containers that are removed are those that were launched, each once, in the same order.
Only a health check launches a container, at most one, and has it removed before it is answered. A
request for the addresses of a sandbox at most looks once for the container that it names, and all
other requests call nothing. -/
theorem removed_eq_launched (settings : Settings)
    (visits : Visits ⟨settings, .delegated⟩ (Service.memory ⟨settings, .delegated⟩) vs m)
    (obliging : ∀ v ∈ vs, v.log.Obliging) :
    (exchanged vs).removed = (exchanged vs).launched ∧
    ∀ v ∈ vs,
      (v.log.launched ≠ [] ∨ v.log.removed ≠ [] → v.request.Asks .health) ∧
      (v.request.Asks .health → v.log.calls.Throwaway) ∧
      (∀ segment, v.request.Asks (.status segment) → v.log.calls = [] ∨
        ∃ id out, pathName segment = .ok id ∧ v.log.calls = [⟨.attach id, out⟩]) ∧
      (v.request.IsIdle → v.log.calls = []) := by
  have business := business_of_visits visits (Memory.numbered_empty _ _) obliging
  constructor
  · refine removed_exchanged fun v hv => ?_
    rw [← Log.removed_calls, ← Log.launched_calls]
    exact (business v hv).removed_eq
  · intro v hv
    refine ⟨?_, (business v hv).throwaway, ?_, (business v hv).eq_nil_of_isIdle⟩
    · rw [← Log.removed_calls, ← Log.launched_calls]
      exact (business v hv).asks_health
    · intro segment asks
      exact (business v hv).eq_attach asks

/-- Requests that are answered in turn, with someone who replies as a world does. -/
def answered (world : Log → (q : Query) → q.Reply) (s : Service) :
    Memory → List Request → List Visit × Memory
  | m, [] => ([], m)
  | m, r :: rs =>
    let out := (respond s r).run (answering world) m []
    let rest := answered world s out.1.2 rs
    (⟨r, out.2, out.1.1⟩ :: rest.1, rest.2)

lemma visits_answered (world : Log → (q : Query) → q.Reply) (s : Service) (m : Memory)
    (rs : List Request) : Visits s m (answered world s m rs).1 (answered world s m rs).2 := by
  induction rs generalizing m with
  | nil => exact .none m
  | cons r rs ih => exact .cons (runs_answering world (respond s r) m) (ih _)

/-- A container runtime that launches and finds whatever it is asked for. -/
def lending : Log → (q : Query) → q.Reply
  | _, .launch spec => Except.ok ⟨some spec.name, "10.0.0.7", .created⟩
  | _, .attach name => Except.ok ⟨some name, "10.0.0.7", .attached⟩
  | _, _ => default

lemma obliging_answered (s : Service) (m : Memory) (rs : List Request) :
    ∀ v ∈ (answered lending s m rs).1, v.log.Obliging := by
  induction rs generalizing m with
  | nil => simp [answered]
  | cons r rs ih =>
    intro v hv
    rcases List.mem_cons.mp hv with rfl | hv
    · intro spec e h
      rcases reply_of_mem_run h with h | ⟨before, h⟩
      · cases h
      · cases h
        exact ⟨rfl, rfl⟩
    · exact ih _ v hv

/-- A container is looked for, and then one of that name is launched for a health check. -/
theorem removed_eq_launched_same_name :
    let service : Service := ⟨.usual, .delegated⟩
    let requests : List Request := [⟨"GET", "/sandbox/status/sandbox-00000000", none, []⟩,
      ⟨"GET", "/sandbox/health", none, []⟩]
    ∃ vs m, Visits service service.memory vs m ∧ vs.map Visit.request = requests ∧
      (∀ v ∈ vs, v.log.Obliging) ∧ (exchanged vs).launched = ["sandbox-00000000"] ∧
      (exchanged vs).removed = ["sandbox-00000000"] := by
  intro service requests
  have visits := visits_answered lending service service.memory requests
  have obliging := obliging_answered service service.memory requests
  have launched : (exchanged (answered lending service service.memory requests).1).launched =
      ["sandbox-00000000"] := by decide +kernel
  refine ⟨_, _, visits, rfl, obliging, launched, ?_⟩
  rw [(removed_eq_launched .usual visits obliging).1]
  exact launched

end Web

end Sandboxes
