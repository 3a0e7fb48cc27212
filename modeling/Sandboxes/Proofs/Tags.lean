import Sandboxes.Proofs.Command.Choice
import Sandboxes.Proofs.Json.Quote
import Sandboxes.Proofs.Net.Form
import Sandboxes.Proofs.Web.Envelope

/-!
# Where tags are given

The tag of a variant comes as the value of a flag, in a query or in the body of a request. All three are
read in the same way: a tag names the same variant wherever it is given, or none anywhere. Only a
preference is also refused for a variant that is off.
-/

namespace Sandboxes

open Command Web

variable {s : String} {r : Request} {svc : Service}

/-! ### Requests -/

namespace Web

lemma queryVariant_of_tag (h : r.tags = [s]) : queryVariant r.query =
    match Variant.parse s with
    | .ok v => .ok (some v)
    | .error f => .error (.ofFailure f) := by
  rw [queryVariant_query, h]
  dsimp only
  cases Variant.parse s <;> rfl

lemma respond_of_asks {e : Endpoint} (asks : r.Asks e) :
    respond svc r = r.wanted <$> give svc r.query e := by
  obtain ⟨path, get | head⟩ := asks
  · have whole : r.wanted = id := funext fun a => if_neg (by rw [get]; decide)
    rw [respond_eq, path, whole, id_map]
    exact if_pos get
  · have bare : r.wanted = Answer.withoutBody := funext fun a => if_pos head
    have get : r.method ≠ "GET" := by rw [head]; decide
    rw [respond_eq, path, bare, ← bind_pure_comp]
    dsimp only
    rw [if_neg get, if_pos head]

/-- What is answered for the health of the variant that a tag names. -/
def healthOf (svc : Service) (tag : String) : Program Answer :=
  match Variant.parse tag with
  | .ok v => svc.checkHealth (some v) >>= fun health => pure (.success (healthDocument health))
  | .error f => pure (.ofFailure f)

/-- What is answered for the addresses of a sandbox of the variant that a tag names. -/
def statusOf (svc : Service) (id tag : String) : Program Answer :=
  match Variant.parse tag with
  | .ok v => svc.get id (some v) >>= fun out => pure (statusAnswer out)
  | .error f => pure (.ofFailure f)

/-- What is answered where the variant that a tag names is preferred. -/
def preferenceOf (svc : Service) (tag : String) : Answer :=
  match Variant.parse tag with
  | .ok v =>
    if v = .aio ∧ svc.settings.aio.enabled = false then .ofFailure (.disabled v)
    else .success (variantDocument svc)
  | .error f => .ofFailure f

lemma respond_health (asks : r.Asks .health) (tag : r.tags = [s]) :
    respond svc r = r.wanted <$> healthOf svc s := by
  rw [respond_of_asks asks, give, giveHealth, queryVariant_of_tag tag, healthOf]
  cases Variant.parse s <;> rfl

lemma respond_status {segment : Bytes} {id : String} (asks : r.Asks (.status segment))
    (name : pathName segment = .ok id) (tag : r.tags = [s]) :
    respond svc r = r.wanted <$> statusOf svc id s := by
  rw [respond_of_asks asks, give, giveStatus, name, queryVariant_of_tag tag, statusOf]
  cases Variant.parse s with
  | error f => rfl
  | ok v =>
    refine congrArg (fun next => r.wanted <$> (svc.get id (some v) >>= next)) (funext fun out => ?_)
    cases out <;> rfl

lemma prefer_of_tag (tag : requestTag r = .ok s) : prefer svc r = preferenceOf svc s := by
  rw [prefer_eq, tag, preferenceOf]
  dsimp only
  cases Variant.parse s with
  | error f => rfl
  | ok v =>
    dsimp only [Bind.bind, Except.bind]
    rw [Service.validate]
    by_cases off : v = .aio ∧ svc.settings.aio.enabled = false
    · rw [if_pos off, if_pos off]
    · rw [if_neg off, if_neg off]

lemma respond_preference (post : r.method = "POST") (path : r.endpoint? = some .variant)
    (tag : requestTag r = .ok s) : respond svc r = pure (preferenceOf svc s) := by
  have get : r.method ≠ "GET" := by rw [post]; decide
  have head : r.method ≠ "HEAD" := by rw [post]; decide
  rw [respond_eq, path]
  dsimp only
  rw [if_neg get, if_neg head, if_pos ⟨post, rfl⟩, prefer_of_tag tag]

/-- The target that asks for a variant at a path. -/
def targetWith (path tag : String) : String :=
  path ++ "?" ++ Net.formField "sandbox_type" tag

lemma splitTarget_targetWith {path : String} (hash : '#' ∉ path.toList) (mark : '?' ∉ path.toList) :
    splitTarget (targetWith path s) = (path, Net.formField "sandbox_type" s) := by
  have characters : (targetWith path s).toList =
      path.toList ++ '?' :: (Net.formField "sandbox_type" s).toList := by
    rw [targetWith, String.toList_append, String.toList_append, List.append_assoc]
    rfl
  have whole : Text.splitFirst? '#' (targetWith path s).toList = none := by
    refine Text.splitFirst?_of_not_mem ?_
    rw [characters, List.mem_append, List.mem_cons, not_or, not_or]
    exact ⟨hash, by decide, Net.not_mem_formField⟩
  rw [splitTarget, whole]
  dsimp only
  rw [characters, Text.splitFirst?_append_cons mark]
  dsimp only
  rw [String.ofList_toList, String.ofList_toList]

lemma tags_of_targetWith {path : String} (target : r.target = targetWith path s)
    (hash : '#' ∉ path.toList) (mark : '?' ∉ path.toList) : r.tags = [s] := by
  rw [Request.tags, Request.query, target, splitTarget_targetWith hash mark, Net.formFields_formField]
  rfl

/-- The document that asks for a variant. -/
def preferenceDocument (tag : String) : Json :=
  .obj [("sandbox_type", .str tag)]

lemma requestTag_preferenceDocument (json : r.contentType.any isJsonType = true)
    (body : r.body = Text.encode (preferenceDocument s).compact) (fits : r.body.length ≤ maxBody) :
    requestTag r = .ok s := by
  have given : bodyTag? r.body = some s := by
    rw [body, bodyTag?, preferenceDocument, Json.readRecord?_text]
    rfl
  rw [requestTag, json, given, if_neg (Nat.not_lt_of_le fits)]
  rfl

end Web

/-! ### Everywhere -/

/-- A tag is read in the same way wherever it is given. -/
structure ReadAlike (s : String) : Prop where
  /-- What the tag names is a matter of spelling. -/
  names : ∀ v, Variant.parse s = .ok v ↔ v.Spells s
  /-- The failure carries the tag as it is. -/
  unknown : (∀ v : Variant, ¬ v.Spells s) → Variant.parse s = .error (.unsupportedTag s)
  /-- Where a command has a flag for the variant, reading goes on with a tag that names one, and only
  then; the command is given that variant. -/
  argument : ∀ words form build, grammar.member? words = some (.command form build) →
    variantFlag ∈ form.flags →
      ∃ reading : Reading Command, reading.grammar = .command form build ∧
        (∀ given ∈ waysToChoose s, ∀ config args,
          Invocation.read config (words ++ (given ++ args)) =
            match Variant.parse s with
            | .ok _ => (reading.choose s).conclude config args
            | .error _ => .error .misuse) ∧
        ∀ v config args inv, Variant.parse s = .ok v →
          (reading.choose s).conclude config args = .ok inv →
            ∃ g, g.chosen = some v ∧ build g = some inv.command
  /-- A command that needs nothing else is complete. -/
  command : ∀ words (build : Option Variant → Command),
    grammar.member? words = some (bare [variantFlag] fun g => build g.chosen) →
      ∀ given ∈ waysToChoose s, Invocation.read none (words ++ given) =
        match Variant.parse s with
        | .ok v => .ok ⟨none, build (some v)⟩
        | .error _ => .error .misuse
  /-- The health is that of the variant, or the answer is the failure. -/
  health : ∀ svc (r : Request), r.Asks .health → r.tags = [s] →
    respond svc r = r.wanted <$> healthOf svc s
  /-- The same holds of the addresses of a sandbox. -/
  status : ∀ svc (r : Request) segment id, r.Asks (.status segment) → pathName segment = .ok id →
    r.tags = [s] → respond svc r = r.wanted <$> statusOf svc id s
  /-- A preference is also refused for a variant that is off. -/
  preference : ∀ svc (r : Request), r.method = "POST" → r.endpoint? = some .variant →
    requestTag r = .ok s → respond svc r = pure (preferenceOf svc s)
  /-- There are queries that give the tag. -/
  query : ∀ (r : Request) (path : String), r.target = targetWith path s → '#' ∉ path.toList →
    '?' ∉ path.toList → r.tags = [s]
  /-- There is a body that gives the tag. -/
  body : ∀ r : Request, r.contentType.any isJsonType = true →
    r.body = Text.encode (preferenceDocument s).compact → r.body.length ≤ maxBody →
      requestTag r = .ok s

/-- A tag is read in the same way wherever it is given, and the word of a variant names it. -/
theorem readAlike (s : String) : ReadAlike s ∧ ∀ v : Variant, Variant.parse v.name = .ok v := by
  refine ⟨?_, fun v => Variant.parse_eq_ok.mpr v.spells_name⟩
  constructor
  case names => exact fun v => Variant.parse_eq_ok
  case unknown => exact Variant.parse_of_not_spells
  case argument =>
    intro words form build leads flag
    obtain ⟨reading, -, command, read⟩ := exists_read_choice leads flag
    refine ⟨reading, command, fun given mem config args => ?_, fun v config args inv parsed done => ?_⟩
    · rw [read s given mem, Reading.afterTag]
      cases Variant.parse s <;> rfl
    · rw [← Variant.ofTag?_of_parse parsed]
      exact chosen_of_conclude command done
  case command =>
    intro words build leads given mem
    obtain ⟨reading, fresh, command, read⟩ := exists_read_choice leads (List.mem_cons_self ..)
    have whole := read s given mem none []
    rw [List.append_nil] at whole
    rw [whole, Reading.afterTag]
    cases parsed : Variant.parse s with
    | error f => rfl
    | ok v =>
      have made := conclude_choose (s := s) fresh command
      rw [Variant.ofTag?_of_parse parsed] at made
      exact made
  case health => exact fun svc r => respond_health
  case status => exact fun svc r segment id => respond_status
  case preference => exact fun svc r => respond_preference
  case query => exact fun r path => tags_of_targetWith
  case body => exact fun r => requestTag_preferenceDocument

/-- A tag between white space, one of which is beyond ASCII, names the all-in-one variant as an argument, in
a query and in a body, where it is off; with a letter beyond ASCII it names nothing. -/
theorem readAlike_wide_blank :
    Invocation.read none ["create", "--type", "\u3000aIo "] = .ok ⟨none, .create (some .aio)⟩ ∧
      respond (.ofSettings .usual) ⟨"GET", "/sandbox/health?sandbox_type=%E3%80%80aIo+", none, []⟩ =
        ((Service.ofSettings .usual).checkHealth (some .aio) >>= fun health =>
          pure (.success (healthDocument health))) ∧
      respond (.ofSettings .usual) ⟨"POST", "/sandbox/type", some "application/json",
          Text.encode (preferenceDocument "\u3000aIo ").compact⟩ =
        pure (.ofFailure (.disabled .aio)) ∧
      Variant.parse "aİo" = .error (.unsupportedTag "aİo") := by
  have wide := (readAlike "\u3000aIo ").1
  have parsed : Variant.parse "\u3000aIo " = .ok .aio :=
    (wide.names .aio).mpr ⟨['\u3000'], ['a', 'I', 'o'], [' '], rfl,
      List.forall_mem_singleton.mpr (by decide), List.forall_mem_singleton.mpr (by decide), by decide⟩
  refine ⟨?_, ?_, ?_, ?_⟩
  · have read := wide.command ["create"] Command.create rfl _ (List.mem_cons_self ..)
    rw [parsed] at read
    exact read
  · have asks : Request.Asks ⟨"GET", "/sandbox/health?sandbox_type=%E3%80%80aIo+", none, []⟩ .health :=
      ⟨by decide +kernel, .inl rfl⟩
    have tags : Request.tags ⟨"GET", "/sandbox/health?sandbox_type=%E3%80%80aIo+", none, []⟩ =
        ["\u3000aIo "] :=
      wide.query _ "/sandbox/health" (by decide +kernel) (by decide) (by decide)
    rw [wide.health _ _ asks tags, healthOf, parsed]
    exact id_map _
  · have tag : requestTag ⟨"POST", "/sandbox/type", some "application/json",
        Text.encode (preferenceDocument "\u3000aIo ").compact⟩ = .ok "\u3000aIo " :=
      wide.body _ (by decide +kernel) rfl (by decide +kernel)
    rw [wide.preference _ _ rfl (by decide +kernel) tag, preferenceOf, parsed]
    rfl
  · refine (readAlike "aİo").1.unknown fun v => ?_
    rw [Variant.spells_iff]
    cases v <;> decide +kernel

end Sandboxes
