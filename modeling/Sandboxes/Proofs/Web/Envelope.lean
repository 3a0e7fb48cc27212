import Sandboxes.Proofs.Web.Responses

/-!
# Envelopes

Answers come in an envelope, a document of a code, a message and data, with two exceptions: the answer
that only says that the interface is up, and the words for a request that its endpoint does not get to
see.
-/

namespace Sandboxes.Web

open Program

namespace Answer

/-- The answer is a document with a code, a message and data and nothing else: either a success with
the code 0, or a failure with its status as the code and no data. -/
def IsEnvelope (a : Answer) : Prop :=
  ∃ members code message data, a.content = .json (.obj members) ∧
    members.Perm [("code", code), ("msg", .str message), ("data", data)] ∧
    ((a.status = 200 ∧ code = Json.ofNat 0 ∧ message = "success") ∨
      (400 ≤ a.status ∧ a.status < 600 ∧ code = Json.ofNat a.status ∧ data = .null))

lemma perm_document {code data message : Json} :
    [("code", code), ("data", data), ("msg", message)].Perm
      [("code", code), ("msg", message), ("data", data)] :=
  .cons _ (.swap _ _ _)

lemma isEnvelope_success (data : Json) : (success data).IsEnvelope :=
  ⟨_, _, _, _, rfl, perm_document, .inl ⟨rfl, rfl, rfl⟩⟩

lemma isEnvelope_failure {status : Nat} {message : String} (low : 400 ≤ status)
    (high : status < 600) : (failure status message).IsEnvelope :=
  ⟨_, _, _, _, rfl, perm_document, .inr ⟨low, high, rfl, rfl⟩⟩

lemma not_isEnvelope_plain {status : Nat} {words : String} :
    ¬ (plain status words).IsEnvelope := by
  rintro ⟨members, code, message, data, h, -⟩
  cases h

lemma statusOf_bounds (f : Failure) : 400 ≤ statusOf f ∧ statusOf f < 600 := by
  unfold statusOf
  split <;> decide

lemma isEnvelope_ofFailure (f : Failure) : (ofFailure f).IsEnvelope :=
  isEnvelope_failure (statusOf_bounds f).1 (statusOf_bounds f).2

lemma isEnvelope_ofFailureIn (attempt : String) (f : Failure) :
    (ofFailureIn attempt f).IsEnvelope := by
  unfold ofFailureIn
  by_cases h : f.isRequestError = true
  · rw [if_pos h]
    exact isEnvelope_ofFailure f
  · rw [if_neg h]
    exact isEnvelope_failure (statusOf_bounds f).1 (statusOf_bounds f).2

end Answer

open Answer

variable {s : Service} {r : Request} {e : Endpoint} {m m' : Memory} {log : Log} {a : Answer}

/-! ### Refusals -/

/-- A request for what an endpoint gives is refused for the name in its path or for its query. -/
lemma refused_iff_of_asks (asks : r.Asks e) :
    r.Refused ↔
      (∃ segment, e = .status segment ∧ Text.decode? (Net.percentDecode segment) = none) ∨
        (e.takesTag = true ∧ 2 ≤ r.tags.length) := by
  constructor
  · intro h
    cases h with
    | method _ get head _ =>
      rcases asks.2 with h | h
      · exact absurd h get
      · exact absurd h head
    | @name segment other unreadable =>
      have same : e = .status segment := Option.some.inj (asks.1.symm.trans other.1)
      exact .inl ⟨segment, same, unreadable⟩
    | @tags e' other takes several =>
      have same : e = e' := Option.some.inj (asks.1.symm.trans other.1)
      exact .inr ⟨same ▸ takes, several⟩
  · rintro (⟨segment, rfl, unreadable⟩ | ⟨takes, several⟩)
    · exact .name asks unreadable
    · exact .tags asks takes several

lemma not_refused_of_post (path : r.endpoint? = some .variant) (post : r.method = "POST") :
    ¬ r.Refused := by
  have other : ¬ (r.method = "GET" ∨ r.method = "HEAD") := by
    rw [post]
    decide
  intro h
  cases h with
  | @method e path' _ _ none =>
    have same : e = .variant := Option.some.inj (path'.symm.trans path)
    exact none ⟨post, same⟩
  | name asks _ => exact other asks.2
  | tags asks _ _ => exact other asks.2

/-- A query that asks for no variant gives several tags or one that is unknown. -/
lemma of_queryVariant_error {refusal : Answer} (h : queryVariant r.query = .error refusal) :
    (2 ≤ r.tags.length ∧ refusal = .plain 400 badQuery) ∨
      (r.tags.length < 2 ∧ ∃ f, refusal = .ofFailure f) := by
  rw [queryVariant_query] at h
  match htags : r.tags with
  | [] =>
    rw [htags] at h
    cases h
  | [tag] =>
    rw [htags] at h
    dsimp only at h
    cases parsed : Variant.parse tag with
    | ok v =>
      rw [parsed] at h
      cases h
    | error f =>
      rw [parsed] at h
      cases h
      exact .inr ⟨Nat.lt_succ_self 1, f, rfl⟩
  | _ :: _ :: _ =>
    rw [htags] at h
    cases h
    exact .inl ⟨by simp, rfl⟩

lemma length_tags_of_queryVariant {v : Option Variant} (h : queryVariant r.query = .ok v) :
    r.tags.length < 2 := by
  refine Nat.lt_of_not_le fun several => ?_
  obtain ⟨refusal, refused⟩ := queryVariant_of_tags (.inl several)
  rw [refused] at h
  cases h

/-! ### Single endpoints -/

lemma prefer_eq : prefer s r = match requestTag r with
    | .error a => a
    | .ok tag => match Variant.parse tag >>= s.validate with
      | .ok _ => .success (variantDocument s)
      | .error f => .ofFailure f := by
  unfold prefer
  cases requestTag r with
  | error a => rfl
  | ok tag =>
    change answerOf (pure tag >>= _) = _
    rw [pure_bind]
    dsimp only
    generalize Variant.parse tag >>= s.validate = outcome
    cases outcome with
    | ok v => rfl
    | error f => rfl

lemma isEnvelope_prefer : (prefer s r).IsEnvelope := by
  have refusal : ∀ a, requestTag r = .error a → a.IsEnvelope := by
    intro a h
    unfold requestTag at h
    split at h
    · cases h
      exact isEnvelope_failure (by decide) (by decide)
    · split at h
      · cases h
        exact isEnvelope_failure (by decide) (by decide)
      · split at h
        · cases h
        · cases h
          exact isEnvelope_failure (by decide) (by decide)
  rw [prefer_eq]
  cases h : requestTag r with
  | error a => exact refusal a h
  | ok tag =>
    dsimp only
    cases Variant.parse tag >>= s.validate with
    | ok v => exact isEnvelope_success _
    | error f => exact isEnvelope_ofFailure f

lemma isEnvelope_statusAnswer (out : Except Failure Handle) : (statusAnswer out).IsEnvelope := by
  cases out with
  | ok handle => exact isEnvelope_success _
  | error f => exact isEnvelope_ofFailureIn _ f

/-- What is answered is an envelope, or words if the request is refused. -/
def Enveloped (r : Request) (a : Answer) : Prop :=
  (a.IsEnvelope ∧ ¬ r.Refused) ∨
    (r.Refused ∧ ∃ status words, (status = 400 ∨ status = 405) ∧ a = .plain status words)

lemma enveloped_of_giveStatus {segment : Bytes} (asks : r.Asks (.status segment))
    (run : (giveStatus s segment r.query).Runs m log a m') : Enveloped r a := by
  rw [runs_giveStatus] at run
  rw [Enveloped, refused_iff_of_asks asks]
  cases name : pathName segment with
  | error refusal =>
    rw [name] at run
    obtain ⟨-, rfl, -⟩ := run
    unfold pathName at name
    split at name
    case h_1 => cases name
    case h_2 unreadable =>
      cases name
      exact .inr ⟨.inl ⟨segment, rfl, unreadable⟩, 400, _, .inl rfl, rfl⟩
  | ok id =>
    have readable := decode?_of_pathName name
    have named : ¬ ∃ other, Endpoint.status segment = .status other ∧
        Text.decode? (Net.percentDecode other) = none := by
      rintro ⟨other, same, unreadable⟩
      cases same
      rw [readable] at unreadable
      cases unreadable
    cases asked : queryVariant r.query with
    | error refusal =>
      rw [name, asked] at run
      obtain ⟨-, rfl, -⟩ := run
      rcases of_queryVariant_error asked with ⟨several, rfl⟩ | ⟨few, f, rfl⟩
      · exact .inr ⟨.inr ⟨rfl, several⟩, 400, _, .inl rfl, rfl⟩
      · refine .inl ⟨isEnvelope_ofFailure f, ?_⟩
        rintro (h | ⟨-, several⟩)
        · exact named h
        · omega
    | ok v =>
      rw [name, asked] at run
      obtain ⟨out, -, rfl⟩ := run
      have few := length_tags_of_queryVariant asked
      refine .inl ⟨isEnvelope_statusAnswer out, ?_⟩
      rintro (h | ⟨-, several⟩)
      · exact named h
      · omega

lemma enveloped_of_giveHealth (asks : r.Asks .health)
    (run : (giveHealth s r.query).Runs m log a m') : Enveloped r a := by
  have only : r.Refused ↔ 2 ≤ r.tags.length := by
    rw [refused_iff_of_asks asks]
    simp [Endpoint.takesTag]
  rw [runs_giveHealth] at run
  rw [Enveloped, only]
  cases asked : queryVariant r.query with
  | error refusal =>
    rw [asked] at run
    obtain ⟨-, rfl, -⟩ := run
    rcases of_queryVariant_error asked with ⟨several, rfl⟩ | ⟨few, f, rfl⟩
    · exact .inr ⟨several, 400, _, .inl rfl, rfl⟩
    · exact .inl ⟨isEnvelope_ofFailure f, by omega⟩
  | ok v =>
    rw [asked] at run
    obtain ⟨health, -, rfl⟩ := run
    have few := length_tags_of_queryVariant asked
    exact .inl ⟨isEnvelope_success _, by omega⟩

lemma enveloped_of_success {data : Json} (asks : r.Asks e) (simple : e.takesTag = false) :
    Enveloped r (.success data) := by
  refine .inl ⟨isEnvelope_success data, ?_⟩
  rw [refused_iff_of_asks asks]
  rintro (⟨segment, rfl, -⟩ | ⟨takes, -⟩)
  · cases simple
  · rw [simple] at takes
    cases takes

lemma enveloped_of_give (asks : r.Asks e) (liveness : e ≠ .liveness)
    (run : (give s r.query e).Runs m log a m') : Enveloped r a := by
  cases e with
  | liveness => exact absurd rfl liveness
  | variant =>
    obtain ⟨-, rfl, -⟩ := runs_pure.mp run
    exact enveloped_of_success asks rfl
  | compare =>
    obtain ⟨-, rfl, -⟩ := runs_pure.mp run
    exact enveloped_of_success asks rfl
  | status segment => exact enveloped_of_giveStatus asks run
  | health => exact enveloped_of_giveHealth asks run

/-! ### All answers -/

lemma enveloped_of_runs (run : (respond s r).Runs m log a m') (head : r.method ≠ "HEAD")
    (liveness : ¬ (r.method = "GET" ∧ r.endpoint? = some .liveness)) : Enveloped r a := by
  have whole : ∀ a, r.wanted a = a := fun a => if_neg head
  cases responded_of_runs run with
  | unknown path =>
    rw [whole]
    refine .inl ⟨isEnvelope_failure (by decide) (by decide), ?_⟩
    -- Whatever is refused has an endpoint.
    intro refused
    cases refused with
    | method path' _ _ _ => simp [path] at path'
    | name asks _ => simp [Request.Asks, path] at asks
    | tags asks _ _ => simp [Request.Asks, path] at asks
  | @given e _ _ _ asks run =>
    rw [whole]
    have get : r.method = "GET" := asks.2.resolve_right head
    refine enveloped_of_give asks ?_ run
    rintro rfl
    exact liveness ⟨get, asks.1⟩
  | preferred path post => exact .inl ⟨isEnvelope_prefer, not_refused_of_post path post⟩
  | refused path get head post => exact .inr ⟨.method path get head post, 405, _, .inr rfl, rfl⟩

/-- Every request is answered by an envelope, unless it only asks for a head or whether the interface
is up, or it is refused before its endpoint sees it: then the answer is in words. -/
theorem isEnvelope_iff (s : Service) (r : Request) (run : (respond s r).Runs m log a m')
    (head : r.method ≠ "HEAD") (liveness : ¬ (r.method = "GET" ∧ r.endpoint? = some .liveness)) :
    (a.IsEnvelope ↔ ¬ r.Refused) ∧
      (r.Refused → ∃ status words, (status = 400 ∨ status = 405) ∧ a = .plain status words) := by
  rcases enveloped_of_runs run head liveness with ⟨envelope, seen⟩ | ⟨refused, status, words, h, rfl⟩
  · exact ⟨iff_of_true envelope seen, fun refused => absurd refused seen⟩
  · refine ⟨iff_of_false not_isEnvelope_plain (not_not_intro refused), fun _ => ?_⟩
    exact ⟨status, words, h, rfl⟩

/-- An unknown tag is answered by an envelope. -/
theorem isEnvelope_unknown_tag :
    let r : Request := ⟨"GET", "/sandbox/health?sandbox_type=podman", none, []⟩
    ∃ log a m', (respond (.ofSettings .usual) r).Runs (.empty 4 4) log a m' ∧ a.IsEnvelope := by
  intro r
  have asks : r.Asks .health := ⟨by decide +kernel, .inl rfl⟩
  have seen : ¬ r.Refused := by
    rw [refused_iff_of_asks asks]
    rintro (⟨segment, h, -⟩ | ⟨-, several⟩)
    · cases h
    · revert several
      decide +kernel
  have liveness : ¬ (r.method = "GET" ∧ r.endpoint? = some .liveness) := by
    rw [asks.1]
    rintro ⟨-, h⟩
    cases h
  have run := runs_answering (fun _ _ => default) (respond (.ofSettings .usual) r) (.empty 4 4)
  exact ⟨_, _, _, run, (isEnvelope_iff _ r run (by decide) liveness).1.mpr seen⟩

/-- Two tags are not. -/
theorem not_isEnvelope_two_tags :
    let r : Request := ⟨"GET", "/sandbox/health?sandbox_type=aio&sandbox_type=aio", none, []⟩
    ∃ log a m', (respond (.ofSettings .usual) r).Runs (.empty 4 4) log a m' ∧ ¬ a.IsEnvelope := by
  intro r
  have asks : r.Asks .health := ⟨by decide +kernel, .inl rfl⟩
  have refused : r.Refused := .tags asks rfl (by decide +kernel)
  have liveness : ¬ (r.method = "GET" ∧ r.endpoint? = some .liveness) := by
    rw [asks.1]
    rintro ⟨-, h⟩
    cases h
  have run := runs_answering (fun _ _ => default) (respond (.ofSettings .usual) r) (.empty 4 4)
  refine ⟨_, _, _, run, ?_⟩
  rcases enveloped_of_runs run (by decide) liveness with ⟨-, seen⟩ | ⟨-, status, words, -, plain⟩
  · exact absurd refused seen
  · rw [plain]
    exact not_isEnvelope_plain

end Sandboxes.Web
