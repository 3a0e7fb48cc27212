import Sandboxes.Proofs.Program.Runs
import Sandboxes.Proofs.Variant
import Sandboxes.Web.Surface

/-!
# Responses

What becomes of a request: its path leads nowhere, its endpoint gives what it has, its body names a
variant, or it is refused. A request may also be refused for its query or for the name in its path,
before its endpoint looks for a sandbox.
-/

namespace Sandboxes.Web

open Program

/-! ### What requests are for -/

/-- Whether what the endpoint gives depends on the variant that is asked for. -/
def Endpoint.takesTag : Endpoint → Bool
  | .status _ | .health => true
  | .liveness | .variant | .compare => false

namespace Request

/-- The endpoint of the path. -/
def endpoint? (r : Request) : Option Endpoint :=
  Endpoint.ofPath? (splitTarget r.target).1

/-- The query behind the path. -/
def query (r : Request) : String :=
  (splitTarget r.target).2

/-- All tags that the query gives. -/
def tags (r : Request) : List String :=
  ((Net.formFields r.query).filter (·.1 = "sandbox_type")).map (·.2)

/-- The request asks for what an endpoint gives, or for the head of that alone. -/
def Asks (r : Request) (e : Endpoint) : Prop :=
  r.endpoint? = some e ∧ (r.method = "GET" ∨ r.method = "HEAD")

/-- The request is one that its endpoint does not get to see: the method is none that the endpoint
knows, the name in the path is no text, or the query gives several tags. -/
inductive Refused (r : Request) : Prop
  | method {e : Endpoint} (path : r.endpoint? = some e) (get : r.method ≠ "GET")
      (head : r.method ≠ "HEAD") (post : ¬ (r.method = "POST" ∧ e = .variant))
  | name {segment : Bytes} (asks : r.Asks (.status segment))
      (unreadable : Text.decode? (Net.percentDecode segment) = none)
  | tags {e : Endpoint} (asks : r.Asks e) (takes : e.takesTag = true) (several : 2 ≤ r.tags.length)

/-- The answer as far as it is wanted. -/
def wanted (r : Request) (a : Answer) : Answer :=
  if r.method = "HEAD" then a.withoutBody else a

end Request

variable {s : Service} {r : Request} {m m' : Memory} {log : Log} {a : Answer}

/-! ### Reading queries and names -/

lemma queryVariant_query : queryVariant r.query =
    match r.tags with
    | [] => .ok none
    | [tag] => (Variant.parse tag).map some |>.mapError .ofFailure
    | _ => .error (.plain 400 badQuery) := by
  unfold queryVariant queryTag Request.tags
  generalize (Net.formFields r.query).filter (·.1 = "sandbox_type") = given
  match given with
  | [] => rfl
  | [(name, tag)] =>
    dsimp only [Bind.bind, Except.bind, List.map]
    cases Variant.parse tag with
    | ok v => rfl
    | error f => rfl
  | _ :: _ :: _ => rfl

/-- A query with an unknown tag, or with several, asks for no variant. -/
lemma queryVariant_of_tags (h : 2 ≤ r.tags.length ∨ ∃ tag ∈ r.tags, Variant.ofTag? tag = none) :
    ∃ refusal, queryVariant r.query = .error refusal := by
  rw [queryVariant_query]
  match htags : r.tags with
  | [] => simp [htags] at h
  | [tag] =>
    have unknown : Variant.ofTag? tag = none := by simpa [htags] using h
    dsimp only
    rw [Variant.parse_of_ofTag? unknown]
    exact ⟨_, rfl⟩
  | _ :: _ :: _ => exact ⟨_, rfl⟩

lemma decode?_of_pathName {segment : Bytes} {id : String} (h : pathName segment = .ok id) :
    Text.decode? (Net.percentDecode segment) = some id := by
  unfold pathName at h
  split at h
  case h_1 name hname =>
    cases h
    exact hname
  case h_2 => cases h

/-! ### Runs -/

/-- The answer for the handle of a sandbox, or for the failure to get one. -/
def statusAnswer : Except Failure Handle → Answer
  | .ok handle => .success (statusDocument handle)
  | .error f => .ofFailureIn "Failed to get sandbox status" f

/-- The addresses of a sandbox are given for a name and a variant that can be read. -/
lemma runs_giveStatus {segment : Bytes} :
    (giveStatus s segment r.query).Runs m log a m' ↔
      match pathName segment, queryVariant r.query with
      | .ok id, .ok v => ∃ out, (s.get id v).Runs m log out m' ∧ a = statusAnswer out
      | .ok _, .error refusal | .error refusal, _ => log = [] ∧ a = refusal ∧ m' = m := by
  unfold giveStatus
  cases pathName segment with
  | error refusal => exact runs_pure
  | ok id =>
    cases queryVariant r.query with
    | error refusal => exact runs_pure
    | ok v =>
      dsimp only [Bind.bind, Except.bind]
      rw [← runs_bind_pure]
      refine iff_of_eq (congrArg (Runs · m log a m') (congrArg (s.get id v >>= ·) ?_))
      funext out
      cases out <;> rfl

lemma runs_giveHealth :
    (giveHealth s r.query).Runs m log a m' ↔
      match queryVariant r.query with
      | .ok v => ∃ health, (s.checkHealth v).Runs m log health m' ∧
          a = .success (healthDocument health)
      | .error refusal => log = [] ∧ a = refusal ∧ m' = m := by
  unfold giveHealth
  cases queryVariant r.query with
  | error refusal => exact runs_pure
  | ok v => exact runs_bind_pure

/-- What a request exchanges and what it is answered, from a memory. -/
inductive Responded (s : Service) (r : Request) (m : Memory) : Log → Answer → Memory → Prop
  | unknown (path : r.endpoint? = none) :
      Responded s r m [] (r.wanted (.failure 404 "Not Found")) m
  | given {e : Endpoint} {log : Log} {a : Answer} {m' : Memory} (asks : r.Asks e)
      (run : (give s r.query e).Runs m log a m') : Responded s r m log (r.wanted a) m'
  | preferred (path : r.endpoint? = some .variant) (post : r.method = "POST") :
      Responded s r m [] (prefer s r) m
  | refused {e : Endpoint} (path : r.endpoint? = some e) (get : r.method ≠ "GET")
      (head : r.method ≠ "HEAD") (post : ¬ (r.method = "POST" ∧ e = .variant)) :
      Responded s r m [] (.plain 405 "") m

lemma respond_eq : respond s r = match r.endpoint? with
    | none => pure (r.wanted (.failure 404 "Not Found"))
    | some e =>
      if r.method = "GET" then give s r.query e
      else if r.method = "HEAD" then give s r.query e >>= fun a => pure a.withoutBody
      else if r.method = "POST" ∧ e = .variant then pure (prefer s r)
      else pure (.plain 405 "") := rfl

lemma responded_of_runs (run : (respond s r).Runs m log a m') : Responded s r m log a m' := by
  rw [respond_eq] at run
  cases path : r.endpoint? with
  | none =>
    rw [path] at run
    obtain ⟨rfl, rfl, rfl⟩ := runs_pure.mp run
    exact .unknown path
  | some e =>
    rw [path] at run
    dsimp only at run
    by_cases get : r.method = "GET"
    · rw [if_pos get] at run
      have whole : r.wanted a = a := if_neg (by rw [get]; decide)
      rw [← whole]
      exact .given ⟨path, .inl get⟩ run
    · rw [if_neg get] at run
      by_cases head : r.method = "HEAD"
      · rw [if_pos head] at run
        obtain ⟨whole, given, rfl⟩ := runs_bind_pure.mp run
        have bare : r.wanted whole = whole.withoutBody := if_pos head
        rw [← bare]
        exact .given ⟨path, .inr head⟩ given
      · rw [if_neg head] at run
        by_cases post : r.method = "POST" ∧ e = .variant
        · rw [if_pos post] at run
          obtain ⟨rfl, rfl, rfl⟩ := runs_pure.mp run
          exact .preferred (by rw [path, post.2]) post.1
        · rw [if_neg post] at run
          obtain ⟨rfl, rfl, rfl⟩ := runs_pure.mp run
          exact .refused path get head post

end Sandboxes.Web
