import Sandboxes.Proofs.Control.Server
import Sandboxes.Proofs.Handle.Replay
import Sandboxes.Proofs.Net.Base

/-!
# The all-in-one variant extends the legacy one

The same action on handles of both variants, with one server at the same base. Both send the same
request first, and if that is answered they give the same. If not, the legacy handle is done, and the
other one may send one more request, to the native interface, with the same arguments.
-/

namespace Sandboxes

open Program

namespace Control

/-! ### The routes of tasks -/

namespace Task

lemma isRoute_primary (t : Task) : Net.Url.IsRoute t.primary.path.toList := by
  have server : Net.Url.authorityOf t.primary.path.toList = ['a', 'p', 'i'] := by
    cases t <;> decide +kernel
  refine ⟨?_, by rw [server]; decide +kernel⟩
  cases t <;>
  · refine Net.Url.isPath_of_fields ?_ ?_ ?_ <;> decide +kernel

lemma isRoute_native (t : Task) : Net.Url.IsRoute t.native.path.toList := by
  have server : Net.Url.authorityOf t.native.path.toList = ['v', '1'] := by
    cases t <;> decide +kernel
  refine ⟨?_, by rw [server]; decide +kernel⟩
  cases t <;>
  · refine Net.Url.isPath_of_fields ?_ ?_ ?_ <;> decide +kernel

end Task

/-! ### Requests of actions -/

/-- An address that is no URL of a web server is refused before anything is sent. -/
lemma provesUnapplied_of_composed {method address : String} {fields : List (String × String)}
    {content : Http.Content} {limit : Duration} {fault : Fault}
    (h : composed method address fields content limit = .error fault) :
    fault.provesUnapplied = true := by
  unfold composed at h
  split at h
  · cases h
    split <;> rfl
  · dsimp only at h
    split at h <;> cases h
    rfl

namespace Action

variable (a : Action)

/-- The request of an action on a route of an interface, as the server sees it. -/
def seen (base : String) (r : Route) : Except Fault Http.Request :=
  a.request ⟨base, .ofSeconds 0⟩ r

/-- What the answer to an action on a route says. -/
def read (r : Route) (sent : Nat × Option Bytes) : Except Fault Answer :=
  match a with
  | operate _ => ((successful sent).bind r.decode).map .envelope
  | download _ => (successful sent).map fun bytes => .file (.ok bytes)

/-- What an action gives when it failed. -/
def failure (words : String) : Answer :=
  match a with
  | operate _ => .envelope (.failure words)
  | download _ => .file (.error (.download words))

/-- What an action gives in the end. -/
def settled : Except String Answer → Answer
  | .ok answer => answer
  | .error words => a.failure words

/-- One attempt of an action. -/
def attempt (i : Interface) (r : Route) : Program (Except Fault Answer) :=
  match a with
  | operate o => i.post o.content r >>= fun out => pure (out.map .envelope)
  | download path => i.fetch path r >>= fun out => pure (out.map fun bytes => .file (.ok bytes))

/-- What an attempt comes to with a server, and the requests by then. -/
def tried (base : String) (server : Http.Server) (past : List Http.Request) (r : Route) :
    Except Fault Answer × List Http.Request :=
  let (sent, requests) := received server past (a.seen base r)
  (sent.bind (a.read r), requests)

/-- What the server's answer to a request comes to, after some requests. -/
def reading (server : Http.Server) (past : List Http.Request) (r : Route) (request : Http.Request) :
    Except Fault Answer :=
  (outcomeOf request (server (past ++ [request]))).bind (a.read r)

variable {a} {i : Interface} {server : Http.Server} {past : List Http.Request} {m : Memory}
  {base : String} {r r' : Route} {first second : Http.Request} {fault : Fault}

/-- How long an answer may take makes no difference to what is received. -/
lemma received_request : received server past (a.request i r) = received server past (a.seen i.base r) := by
  cases a <;> exact received_composed

lemma run_attempt : (a.attempt i r).run server.answer m past =
    (((a.tried i.base server past r).1, m), (a.tried i.base server past r).2) := by
  rw [tried, ← received_request]
  cases a with
  | operate o =>
    simp only [attempt, Interface.post, Interface.send, run_bind_pure, run_exchange, request]
    obtain ⟨sent, requests⟩ := received server past (composed "POST" _ _ _ _)
    cases sent <;> rfl
  | download path =>
    simp only [attempt, Interface.fetch, Interface.send, run_bind_pure, run_exchange, request]
    obtain ⟨sent, requests⟩ := received server past (composed "GET" _ _ _ _)
    cases sent <;> rfl

/-! ### The requests of both routes -/

/-- The form fields in the query of an action's requests. -/
def fields : Action → List (String × String)
  | operate _ => []
  | download path => [("path", path)]

lemma seen_eq_ok : a.seen base r = .ok first ↔
    ∃ url, Net.Url.ofText? (base ++ r.path) = some url ∧ url.isWeb = true ∧
      first = ⟨match a with | operate _ => "POST" | download _ => "GET",
        a.fields.foldl (fun url (name, value) => url.withField name value) url,
        match a with | operate o => Interface.rendered r o.content | download _ => .nothing,
        .ofSeconds 0⟩ := by
  cases a <;> exact composed_eq_ok

lemma untimed_of_seen (h : a.seen base r = .ok first) : first.untimed = first := by
  obtain ⟨url, -, -, rfl⟩ := seen_eq_ok.mp h
  rfl

lemma tried_of_ok (h : a.seen base r = .ok first) :
    a.tried base server past r = (a.reading server past r first, past ++ [first]) := by
  simp only [tried, h, received, untimed_of_seen h, reading]

lemma tried_of_error (h : a.seen base r = .error fault) :
    a.tried base server past r = (.error fault, past) := by
  simp only [tried, h, received]
  rfl

/-- If the request of one route can be composed, so can that of the other. -/
lemma exists_seen (hr : Net.Url.IsRoute r.path.toList) (hr' : Net.Url.IsRoute r'.path.toList)
    (h : a.seen base r = .ok first) : ∃ second, a.seen base r' = .ok second := by
  obtain ⟨url, hurl, web, -⟩ := seen_eq_ok.mp h
  rw [← String.ofList_toList (s := r.path)] at hurl
  obtain ⟨url', hurl', web'⟩ := Net.Url.exists_isWeb_of_route hr hr' hurl web
  rw [String.ofList_toList] at hurl'
  exact ⟨_, seen_eq_ok.mpr ⟨url', hurl', web', rfl⟩⟩

lemma provesUnapplied_of_seen (h : a.seen base r = .error fault) : fault.provesUnapplied = true := by
  cases a <;> exact provesUnapplied_of_composed h

/-- A request goes to the native interface with the arguments of one that went to the route that both
variants have. Only native shells know the arguments by other names. -/
structure Repeats (a : Action) (base : String) (first second : Http.Request) : Prop where
  method : second.method = first.method
  content : match a with
    | operate (.exec session dir command) =>
      first.content = .json (.obj [("command", .str command), ("exec_dir", .str dir),
        ("id", .str session)]) ∧
      second.content = .json (.obj [("command", .str command), ("cwd", .str dir),
        ("session_id", .str session)])
    | _ => second.content = first.content
  url : Net.Url.IsBase base → ∃ front, first.url.path = front ++ a.task.primary.path ∧
    second.url = { first.url with path := front ++ a.task.native.path }

lemma repeats_of_seen (h : a.seen base a.task.primary = .ok first)
    (h' : a.seen base a.task.native = .ok second) : a.Repeats base first second := by
  obtain ⟨url, hurl, -, rfl⟩ := seen_eq_ok.mp h
  obtain ⟨url', hurl', -, rfl⟩ := seen_eq_ok.mp h'
  refine ⟨rfl, ?_, fun hb => ?_⟩
  · cases a with
    | operate o => cases o <;> first | rfl | exact ⟨rfl, rfl⟩
    | download path => rfl
  · obtain ⟨root, front, hread⟩ := hb.exists_ofText?
    have read := hread _ a.task.isRoute_primary.plain
    have read' := hread _ a.task.isRoute_native.plain
    rw [String.ofList_toList] at read read'
    cases hurl.symm.trans read
    cases hurl'.symm.trans read'
    refine ⟨front, ?_, ?_⟩ <;> cases a <;> rfl

/-! ### What both variants come to -/

/-- The words for a failure of the request that both variants send. -/
def failed (a : Action) (fault : Fault) : String :=
  a.task.label ++ " failed: " ++ fault.message

/-- What an action on the legacy variant gives and sends with a server at a base, and what it gives
and sends on the all-in-one variant. -/
inductive Extends (a : Action) (server : Http.Server) (base : String) :
    Answer × List Http.Request → Answer × List Http.Request → Prop
  /-- Nothing can be sent there. -/
  | unsent {fault fault' : Fault} (address : a.seen base a.task.primary = .error fault)
      (address' : a.seen base a.task.native = .error fault') :
      Extends a server base (a.failure (a.failed fault), [])
        (a.failure (a.failed fault ++ "; fallback: " ++ fault'.message), [])
  /-- The request of both is answered. -/
  | answered {first : Http.Request} {answer : Answer}
      (request : a.seen base a.task.primary = .ok first)
      (reply : a.reading server [] a.task.primary first = .ok answer) :
      Extends a server base (answer, [first]) (answer, [first])
  /-- The request of both fails, and may have been applied. -/
  | skipped {first : Http.Request} {fault : Fault}
      (request : a.seen base a.task.primary = .ok first)
      (reply : a.reading server [] a.task.primary first = .error fault)
      (effects : a.hasSideEffects = true) (unproven : fault.provesUnapplied = false) :
      Extends a server base (a.failure (a.failed fault), [first])
        (a.failure (a.failed fault ++
          " (fallback skipped: request may already have been applied)"), [first])
  /-- The request of both fails, and may be sent again. -/
  | repeated {first second : Http.Request} {fault : Fault}
      (request : a.seen base a.task.primary = .ok first)
      (reply : a.reading server [] a.task.primary first = .error fault)
      (harmless : a.hasSideEffects = false ∨ fault.provesUnapplied = true)
      (request' : a.seen base a.task.native = .ok second)
      (repeats : a.Repeats base first second) :
      Extends a server base (a.failure (a.failed fault), [first])
        (match a.reading server [first] a.task.native second with
          | .ok answer => answer
          | .error fault' => a.failure (a.failed fault ++ "; fallback: " ++ fault'.message),
        [first, second])

end Action

end Control

namespace Handle

open Control

variable {h g : Handle} {a : Action} {server : Http.Server} {m n : Memory}

lemma actOpen_eq : h.actOpen a =
    (a.plan h.variant).run (a.attempt h.interface) >>= fun out => pure (a.settled out) := by
  cases a with
  | operate o =>
    unfold Action.attempt
    dsimp only
    rw [Plan.run_map, bind_assoc, actOpen, Interface.call, bind_assoc]
    refine congrArg (_ >>= ·) (funext fun out => ?_)
    cases out <;> rfl
  | download path =>
    unfold Action.attempt
    dsimp only
    rw [Plan.run_map, bind_assoc, actOpen, Interface.download, bind_assoc]
    refine congrArg (_ >>= ·) (funext fun out => ?_)
    cases out <;> rfl

/-- What an action gives and which requests it sends with a server, from some memory. -/
def served (h : Handle) (a : Action) (server : Http.Server) (m : Memory) :
    Action.Answer × List Http.Request :=
  let ((answer, _), requests) := (h.act a).run server.answer m []
  (answer, requests)

lemma served_open (opened : h.number ∉ m.closed) :
    h.served a server m =
      let (out, requests) := (a.plan h.variant).settled (a.tried h.interface.base server) []
      (a.settled out, requests) := by
  have run : (h.act a).run server.answer m [] = (h.actOpen a).run server.answer m [] := by
    rw [act_eq]
    change (if decide (h.number ∈ m.closed) = true then _ else _ : Program _).run server.answer m [] = _
    rw [if_neg (by simpa using opened)]
  rw [served, run, actOpen_eq, run_bind_pure, Plan.run_served fun past route => Action.run_attempt]

lemma served_legacy (opened : h.number ∉ m.closed) (legacy : h.variant = .legacy) :
    h.served a server m =
      match a.tried h.interface.base server [] a.task.primary with
      | (.ok answer, requests) => (answer, requests)
      | (.error fault, requests) => (a.failure (a.failed fault), requests) := by
  have fallback : (a.plan .legacy).fallback = none := a.plan_fallback .legacy
  have label : (a.plan .legacy).label = a.task.label := by cases a <;> rfl
  rw [served_open opened, legacy, Plan.settled, Action.plan_primary]
  obtain ⟨first, requests⟩ := a.tried h.interface.base server [] a.task.primary
  cases first with
  | ok answer => rfl
  | error fault =>
    simp only [Plan.next, Plan.givenUp, Plan.failed, fallback, label, ite_self]
    rfl

lemma served_aio (opened : g.number ∉ n.closed) (aio : g.variant = .aio) :
    g.served a server n =
      match a.tried g.interface.base server [] a.task.primary with
      | (.ok answer, requests) => (answer, requests)
      | (.error fault, requests) =>
        if a.hasSideEffects = true ∧ fault.provesUnapplied = false then
          (a.failure (a.failed fault ++
            " (fallback skipped: request may already have been applied)"), requests)
        else
          match a.tried g.interface.base server requests a.task.native with
          | (.ok answer, requests) => (answer, requests)
          | (.error fault', requests) =>
            (a.failure (a.failed fault ++ "; fallback: " ++ fault'.message), requests) := by
  have fallback : (a.plan .aio).fallback = some a.task.native := a.plan_fallback .aio
  have label : (a.plan .aio).label = a.task.label := by cases a <;> rfl
  rw [served_open opened, aio, Plan.settled, Action.plan_primary]
  obtain ⟨first, requests⟩ := a.tried g.interface.base server [] a.task.primary
  cases first with
  | ok answer => rfl
  | error fault =>
    by_cases skip : a.hasSideEffects = true ∧ fault.provesUnapplied = false
    · have next : (a.plan .aio).next fault = none := by
        simp [Plan.next, Plan.allows, Action.plan_replay, skip]
      simp only [next, if_pos skip, Plan.givenUp, Plan.failed, fallback, label]
      rfl
    · have next : (a.plan .aio).next fault = some a.task.native := by
        simp only [Plan.next, Plan.allows, Action.plan_replay, fallback]
        grind
      simp only [next, if_neg skip]
      obtain ⟨second, requests⟩ := a.tried g.interface.base server requests a.task.native
      cases second <;> simp only [Plan.afterBoth, Plan.failed, label] <;> rfl

/-- Whatever the server does, an action on an open handle of the all-in-one variant extends what it
does on an open legacy handle with the same base. -/
theorem extends_of_same_base (server : Http.Server) (a : Action) (legacy : h.variant = .legacy)
    (aio : g.variant = .aio) (base : g.interface.base = h.interface.base)
    (opened : h.number ∉ m.closed) (opened' : g.number ∉ n.closed) :
    a.Extends server h.interface.base (h.served a server m) (g.served a server n) := by
  rw [served_legacy opened legacy, served_aio opened' aio, base]
  generalize h.interface.base = base
  cases seen : a.seen base a.task.primary with
  | error fault =>
    have proves := Action.provesUnapplied_of_seen seen
    cases seen' : a.seen base a.task.native with
    | ok second =>
      obtain ⟨first, h⟩ := Action.exists_seen a.task.isRoute_native a.task.isRoute_primary seen'
      cases seen.symm.trans h
    | error fault' =>
      simp only [Action.tried_of_error seen, Action.tried_of_error seen', proves, Bool.true_eq_false,
        and_false, if_false]
      exact .unsent seen seen'
  | ok first =>
    rw [Action.tried_of_ok seen, List.nil_append]
    cases reply : a.reading server [] a.task.primary first with
    | ok answer => exact .answered seen reply
    | error fault =>
      by_cases skip : a.hasSideEffects = true ∧ fault.provesUnapplied = false
      · simp only [if_pos skip]
        exact .skipped seen reply skip.1 skip.2
      · obtain ⟨second, seen'⟩ := Action.exists_seen a.task.isRoute_primary a.task.isRoute_native seen
        have harmless : a.hasSideEffects = false ∨ fault.provesUnapplied = true := by grind
        have extension := Action.Extends.repeated seen reply harmless seen'
          (Action.repeats_of_seen seen seen')
        simp only [if_neg skip, Action.tried_of_ok seen', List.singleton_append]
        cases reply' : a.reading server [first] a.task.native second with
        | ok answer => simpa only [reply'] using extension
        | error fault' => simpa only [reply'] using extension

/-- A legacy handle at the address of the launched container. -/
def launchedLegacy : Handle :=
  { launched with number := 1, variant := .legacy }

/-- A server which knows nothing the first time, and then gives an empty object. -/
def unknowing : Http.Server := fun requests =>
  if requests.length = 1 then .answered 404 none else .answered 200 (some [0x7B, 0x7D])

/-- A command on a server that does not know the legacy route is sent to the native one. -/
theorem extends_of_same_base_unknowing :
    Net.Url.IsBase launchedLegacy.interface.base ∧
      let a : Action := .operate (.exec "main" "/tmp" "make")
      a.Extends unknowing launchedLegacy.interface.base
        (launchedLegacy.served a unknowing (.empty 4 4)) (launched.served a unknowing (.empty 4 4)) :=
  ⟨by decide +kernel,
    extends_of_same_base unknowing _ rfl rfl rfl List.not_mem_nil List.not_mem_nil⟩

end Handle

end Sandboxes
