import Mathlib.Data.List.Basic
import Sandboxes.Proofs.Settings.Document
import Sandboxes.Proofs.Text.Digits
import Sandboxes.Settings.Environment

/-!
# Overriding settings

Each variable overrides the setting at one place of the document of all settings, and leaves every
other place as it is. So what an environment does to settings is told place by place
(`Environment.Renews`), and this determines the settings that it leaves. What follows is said of two
environments in turn (`compose_of_override`) and of one that is at fault (`fault_of_override`).
-/

namespace Sandboxes.Settings

open Json

/-! ### Variables -/

/-- The words for truth values. -/
def trueWords : List String := ["1", "true", "yes", "on"]

def falseWords : List String := ["0", "false", "no", "off"]

/-- The word that a value is read as. -/
def word (value : String) : String :=
  Text.lower (Text.trim value)

lemma truth_eq (name value : String) : truth name value =
    if word value ∈ trueWords then .ok true
    else if word value ∈ falseWords then .ok false
    else .error (.truth name (word value)) :=
  rfl

lemma truth_of_mem {name value : String} (h : word value ∈ trueWords ++ falseWords) :
    truth name value = .ok (decide (word value ∈ trueWords)) := by
  rw [truth_eq]
  by_cases yes : word value ∈ trueWords
  · rw [if_pos yes, decide_eq_true yes]
  · have no : word value ∈ falseWords := (List.mem_append.mp h).resolve_left yes
    rw [if_neg yes, if_pos no, decide_eq_false yes]

lemma truth_of_not_mem {name value : String} (h : word value ∉ trueWords ++ falseWords) :
    truth name value = .error (.truth name (word value)) := by
  obtain ⟨yes, no⟩ := not_or.mp (mt List.mem_append.mpr h)
  rw [truth_eq, if_neg yes, if_neg no]

/-- The number of minutes that a value stands for, if it stands for one. -/
def minutesIn (value : String) : Nat :=
  Text.decimalValue (Text.withoutPlus (Text.trim value))

lemma minutes_of_isNumeral {value : String} (h : Text.IsNumeral (2 ^ 32) (Text.trim value)) :
    minutes value = .ok (.ofNat (minutesIn value)) := by
  rw [minutes, (Text.readNat_eq_ok (by decide)).mpr ⟨h, rfl⟩]
  rfl

lemma minutes_of_not_isNumeral {value : String} (h : ¬ Text.IsNumeral (2 ^ 32) (Text.trim value)) :
    ∃ fault, minutes value = .error (.minutes value fault) := by
  unfold minutes
  cases read : Text.readNat (2 ^ 32) (Text.trim value) with
  | ok n => exact absurd ((Text.readNat_eq_ok (by decide)).mp read).1 h
  | error fault => exact ⟨fault, rfl⟩

namespace Variable

/-- The place of the setting that a variable overrides. -/
def path : Variable → Path
  | aioEnabled => ["aio", "enabled"]
  | aioImage => ["aio", "image"]
  | legacyImage => ["legacy", "image"]
  | legacyStem => ["legacy", "name_prefix"]
  | address => ["sandbox_address"]
  | network => ["sandbox_network"]
  | ttlMinutes => ["legacy", "ttl_minutes"]
  | chromeArgs => ["legacy", "chrome_args"]
  | httpsProxy => ["legacy", "https_proxy"]
  | httpProxy => ["legacy", "http_proxy"]
  | noProxy => ["legacy", "no_proxy"]
  | strict => ["readiness", "strict"]
  | bind => ["bind"]

lemma path_inj {v w : Variable} : v.path = w.path ↔ v = w := by
  refine ⟨?_, congrArg path⟩
  cases v <;> cases w <;> decide

lemma path_mem (v : Variable) : v.path ∈ paths := by
  cases v <;> decide

lemma mem_all (v : Variable) : v ∈ all := by
  cases v <;> decide

lemma nodup_all : all.Nodup := by
  decide

/-- The values that a variable cannot have. -/
def Refuses : Variable → String → Prop
  | aioEnabled, value | strict, value => word value ∉ trueWords ++ falseWords
  | ttlMinutes, value => ¬ Text.IsNumeral (2 ^ 32) (Text.trim value)
  | _, _ => False

/-- What a value makes of the setting of a variable. -/
def written : Variable → String → Json
  | aioEnabled, value | strict, value => .bool (decide (word value ∈ trueWords))
  | ttlMinutes, value => Json.ofNat (minutesIn value)
  | _, value => .str value

/-- The words for a value that a variable cannot have. -/
def complaint : Variable → String → String
  | ttlMinutes, value => "Invalid " ++ ttlMinutes.name ++ ": " ++ value
  | v, value => "Invalid boolean for " ++ v.name ++ ": " ++ word value

variable {v : Variable} {value : String}

/-- A variable that can have the value changes its own setting only. -/
lemma set_of_not_refuses (s : Settings) (h : ¬ v.Refuses value) :
    ∃ s', v.set value s = .ok s' ∧ ∀ path ∈ paths, s'.toJson.at? path =
      if path = v.path then some (v.written value) else s.toJson.at? path := by
  -- The places are finitely many, and the two documents are compared at each of them.
  have compare {v : Variable} {s' : Settings} {j : Json} (hj : v.written value = j)
      (same : paths.map (s'.toJson.at? ·) =
        paths.map fun path => if path = v.path then some j else s.toJson.at? path) :
      ∀ path ∈ paths, s'.toJson.at? path =
        if path = v.path then some (v.written value) else s.toJson.at? path :=
    fun path hpath => hj ▸ List.map_inj_left.mp same path hpath
  cases v with
  | aioEnabled =>
    obtain ⟨b, hb, read⟩ : ∃ b, aioEnabled.written value = .bool b ∧
        truth aioEnabled.name value = .ok b := ⟨_, rfl, truth_of_mem (not_not.mp h)⟩
    have new : aioEnabled.set value s = .ok { s with aio := { s.aio with enabled := b } } := by
      rw [set, read]
      rfl
    exact ⟨_, new, compare hb rfl⟩
  | strict =>
    obtain ⟨b, hb, read⟩ : ∃ b, strict.written value = .bool b ∧
        truth strict.name value = .ok b := ⟨_, rfl, truth_of_mem (not_not.mp h)⟩
    have new : strict.set value s =
        .ok { s with readiness := { s.readiness with strict := b } } := by
      rw [set, read]
      rfl
    exact ⟨_, new, compare hb rfl⟩
  | ttlMinutes =>
    have numeral : Text.IsNumeral (2 ^ 32) (Text.trim value) := not_not.mp h
    have whole : (UInt32.ofNat (minutesIn value)).toNat = minutesIn value :=
      UInt32.toNat_ofNat_of_lt' numeral.2.2
    obtain ⟨n, hn, read⟩ : ∃ n, ttlMinutes.written value = Json.ofNat (UInt32.toNat n) ∧
        minutes value = .ok n := ⟨_, by rw [whole, written], minutes_of_isNumeral numeral⟩
    have new : ttlMinutes.set value s =
        .ok { s with legacy := { s.legacy with ttlMinutes := some n } } := by
      rw [set, read]
      rfl
    exact ⟨_, new, compare hn rfl⟩
  | _ => exact ⟨_, rfl, compare rfl rfl⟩

lemma set_of_refuses (s : Settings) (h : v.Refuses value) :
    ∃ fault, v.set value s = .error fault ∧ fault.messages.head? = some (v.complaint value) := by
  cases v with
  | aioEnabled => exact ⟨_, by rw [set, truth_of_not_mem h]; rfl, rfl⟩
  | strict => exact ⟨_, by rw [set, truth_of_not_mem h]; rfl, rfl⟩
  | ttlMinutes =>
    obtain ⟨fault, refused⟩ := minutes_of_not_isNumeral h
    exact ⟨_, by rw [set, refused]; rfl, rfl⟩
  | _ => cases h

end Variable

/-! ### What an environment does -/

namespace Environment

variable {env earlier later : Environment} {v : Variable} {vs : List Variable}
  {s s' s'' : Settings}

/-- The variable is set to a value that it cannot have. -/
def Faulty (env : Environment) (v : Variable) : Prop :=
  ∃ value, env.value? v = some value ∧ v.Refuses value

/-- The first variable at fault is `v`, by its `value`. -/
structure StopsAt (env : Environment) (before : List Variable) (v : Variable) (value : String) :
    Prop where
  order : before ++ [v] <+: Variable.all
  sound : ∀ w ∈ before, ¬ env.Faulty w
  set : env.value? v = some value
  refused : v.Refuses value

lemma exists_stopsAt (h : ∃ v, env.Faulty v) : ∃ before v value, env.StopsAt before v value := by
  classical
  obtain ⟨v, faulty⟩ := h
  have found : (Variable.all.find? fun v => decide (env.Faulty v)).isSome :=
    List.find?_isSome.mpr ⟨v, v.mem_all, decide_eq_true faulty⟩
  obtain ⟨v, first⟩ := Option.isSome_iff_exists.mp found
  obtain ⟨faulty, before, after, all, sound⟩ := List.find?_eq_some_iff_append.mp first
  obtain ⟨value, hvalue, refused⟩ := of_decide_eq_true faulty
  have order : before ++ [v] ++ after = Variable.all := by rw [all, List.append_assoc]; rfl
  exact ⟨before, v, value, ⟨after, order⟩, by simpa using sound, hvalue, refused⟩

/-- The settings of those variables are the new ones, and all others are the old ones. -/
structure Renews (env : Environment) (vs : List Variable) (s s' : Settings) : Prop where
  new : ∀ v ∈ vs, ∀ value, env.value? v = some value →
    s'.toJson.at? v.path = some (v.written value)
  old : ∀ path ∈ paths, (∀ v ∈ vs, v.path = path → env.value? v = none) →
    s'.toJson.at? path = s.toJson.at? path

namespace Renews

lemma nil : env.Renews [] s s where
  new := nofun
  old _ _ _ := rfl

lemma cons_of_none (unset : env.value? v = none) (rest : env.Renews vs s s') :
    env.Renews (v :: vs) s s' where
  new w hw value hvalue := by
    rcases List.mem_cons.mp hw with rfl | hw
    · rw [unset] at hvalue
      cases hvalue
    · exact rest.new w hw value hvalue
  old path hpath h := rest.old path hpath fun w hw => h w (List.mem_cons_of_mem v hw)

lemma cons_of_some {value : String} (hvalue : env.value? v = some value) (fresh : v ∉ vs)
    (first : ∀ path ∈ paths, s'.toJson.at? path =
      if path = v.path then some (v.written value) else s.toJson.at? path)
    (rest : env.Renews vs s' s'') : env.Renews (v :: vs) s s'' where
  new w hw value' hvalue' := by
    rcases List.mem_cons.mp hw with rfl | hw
    · -- None of the other variables is about the place of the first.
      have others : ∀ v ∈ vs, v.path = w.path → env.value? v = none := by
        intro v hv same
        rw [Variable.path_inj.mp same] at hv
        exact absurd hv fresh
      rw [rest.old w.path w.path_mem others, first w.path w.path_mem, if_pos rfl,
        Option.some.inj (hvalue.symm.trans hvalue')]
    · exact rest.new w hw value' hvalue'
  old path hpath h := by
    have ne : path ≠ v.path := by
      intro same
      have unset := h v List.mem_cons_self same.symm
      rw [hvalue] at unset
      cases unset
    rw [rest.old path hpath fun w hw => h w (List.mem_cons_of_mem v hw), first path hpath,
      if_neg ne]

/-- What is renewed determines the settings. -/
lemma unique {env' : Environment} (h : env.Renews vs s s') (h' : env'.Renews vs s s'')
    (same : ∀ v ∈ vs, env.value? v = env'.value? v) : s' = s'' := by
  refine eq_of_at? fun path hpath => ?_
  by_cases unset : ∀ v ∈ vs, v.path = path → env.value? v = none
  · have unset' : ∀ v ∈ vs, v.path = path → env'.value? v = none := by
      intro v hv hvpath
      rw [← same v hv]
      exact unset v hv hvpath
    rw [h.old path hpath unset, h'.old path hpath unset']
  · push Not at unset
    obtain ⟨v, hv, rfl, set⟩ := unset
    obtain ⟨value, hvalue⟩ := Option.ne_none_iff_exists'.mp set
    rw [h.new v hv value hvalue, h'.new v hv value (same v hv ▸ hvalue)]

end Renews

/-- The values of a later environment where they are not blank, and of an earlier one elsewhere. -/
def after (later earlier : Environment) : Environment :=
  fun name => ((later name).filter (!Text.allBlank ·)).or (earlier name)

lemma value?_after (v : Variable) :
    (later.after earlier).value? v = (later.value? v).or (earlier.value? v) := by
  unfold value? after
  cases h : (later v.name).filter (!Text.allBlank ·) with
  | none => rfl
  | some value => simpa using (Option.filter_eq_some_iff.mp h).2

lemma Faulty.of_after (h : (later.after earlier).Faulty v) : later.Faulty v ∨ earlier.Faulty v := by
  obtain ⟨value, hvalue, refused⟩ := h
  rw [value?_after, Option.or_eq_some_iff] at hvalue
  rcases hvalue with hvalue | ⟨-, hvalue⟩
  · exact .inl ⟨value, hvalue, refused⟩
  · exact .inr ⟨value, hvalue, refused⟩

lemma Renews.trans (h : earlier.Renews vs s s') (h' : later.Renews vs s' s'') :
    (later.after earlier).Renews vs s s'' where
  new v hv value hvalue := by
    rw [value?_after, Option.or_eq_some_iff] at hvalue
    rcases hvalue with hvalue | ⟨unset, hvalue⟩
    · exact h'.new v hv value hvalue
    · have untouched : ∀ w ∈ vs, w.path = v.path → later.value? w = none := by
        intro w _ same
        rw [Variable.path_inj.mp same, unset]
      rw [h'.old v.path v.path_mem untouched, h.new v hv value hvalue]
  old path hpath unset := by
    have neither : ∀ v ∈ vs, v.path = path → later.value? v = none ∧ earlier.value? v = none := by
      intro v hv hvpath
      have := unset v hv hvpath
      rwa [value?_after, Option.or_eq_none_iff] at this
    rw [h'.old path hpath fun v hv hvpath => (neither v hv hvpath).1,
      h.old path hpath fun v hv hvpath => (neither v hv hvpath).2]

end Environment

/-! ### Variables in turn -/

section

variable {env : Environment} {v : Variable} {vs : List Variable} {s s' : Settings}

lemma overrideBy_of_none (unset : env.value? v = none) :
    overrideBy env (v :: vs) s = overrideBy env vs s := by
  rw [overrideBy, unset]

lemma overrideBy_of_ok {value : String} (hvalue : env.value? v = some value)
    (read : v.set value s = .ok s') : overrideBy env (v :: vs) s = overrideBy env vs s' := by
  simp only [overrideBy, hvalue, read]

lemma overrideBy_of_error {value : String} {fault : VariableFault}
    (hvalue : env.value? v = some value) (refused : v.set value s = .error fault) :
    overrideBy env (v :: vs) s = (s, some fault) := by
  simp only [overrideBy, hvalue, refused]

/-- Variables none of which is at fault renew their settings, and those after them go on from
there. -/
lemma overrideBy_append (ws : List Variable) (s : Settings) (sound : ∀ v ∈ vs, ¬ env.Faulty v)
    (nodup : vs.Nodup) :
    ∃ s', env.Renews vs s s' ∧ overrideBy env (vs ++ ws) s = overrideBy env ws s' := by
  induction vs generalizing s with
  | nil => exact ⟨s, .nil, rfl⟩
  | cons v vs ih =>
    obtain ⟨first, sound⟩ := List.forall_mem_cons.mp sound
    obtain ⟨fresh, nodup⟩ := List.nodup_cons.mp nodup
    rw [List.cons_append]
    cases hvalue : env.value? v with
    | none =>
      obtain ⟨s', renews, run⟩ := ih s sound nodup
      exact ⟨s', renews.cons_of_none hvalue, (overrideBy_of_none hvalue).trans run⟩
    | some value =>
      have readable : ¬ v.Refuses value := fun refused => first ⟨value, hvalue, refused⟩
      obtain ⟨s₁, read, changed⟩ := Variable.set_of_not_refuses s readable
      obtain ⟨s', renews, run⟩ := ih s₁ sound nodup
      exact ⟨s', renews.cons_of_some hvalue fresh changed, (overrideBy_of_ok hvalue read).trans run⟩

end

namespace Overridden

open Environment

variable {env : Environment} {o : Overridden}

/-- What an environment without a fault does. -/
lemma override_of_sound (o : Overridden) (sound : ∀ v, ¬ env.Faulty v) :
    ∃ s, env.Renews Variable.all o.settings s ∧
      o.override env = (⟨s, o.overrides ++ env.names⟩, none) := by
  obtain ⟨s, renews, run⟩ := overrideBy_append [] o.settings (fun v _ => sound v)
    Variable.nodup_all
  rw [List.append_nil] at run
  refine ⟨s, renews, ?_⟩
  rw [override, run]
  rfl

/-- What an environment with a fault does. -/
lemma override_of_stopsAt {before : List Variable} {v : Variable} {value : String}
    (o : Overridden) (h : env.StopsAt before v value) :
    ∃ s fault, env.Renews before o.settings s ∧
      fault.messages.head? = some (v.complaint value) ∧
      o.override env = (⟨s, o.overrides⟩, some fault) := by
  obtain ⟨after, all⟩ := h.order
  rw [List.append_assoc] at all
  have nodup : before.Nodup := (List.nodup_append.mp (all ▸ Variable.nodup_all)).1
  obtain ⟨s, renews, run⟩ := overrideBy_append ([v] ++ after) o.settings h.sound nodup
  obtain ⟨fault, refused, words⟩ := Variable.set_of_refuses s h.refused
  refine ⟨s, fault, renews, words, ?_⟩
  rw [override, ← all, run, List.singleton_append, overrideBy_of_error h.set refused]

lemma override_eq_none : (o.override env).2 = none ↔ ∀ v, ¬ env.Faulty v := by
  constructor
  · intro ok v faulty
    obtain ⟨before, v, value, stops⟩ := exists_stopsAt ⟨v, faulty⟩
    obtain ⟨s, fault, -, -, run⟩ := o.override_of_stopsAt stops
    rw [run] at ok
    cases ok
  · intro sound
    obtain ⟨s, -, run⟩ := o.override_of_sound sound
    rw [run]

/-- A fault is told by the first variable that has one, and the variables before it have renewed
their settings. -/
theorem fault_of_override (o : Overridden) (env : Environment) :
    ((o.override env).2 = none ↔ ∀ v, ¬ env.Faulty v) ∧
      ∀ o' fault, o.override env = (o', some fault) →
        ∃ before v value, env.StopsAt before v value ∧
          fault.messages.head? = some (v.complaint value) ∧
          env.Renews before o.settings o'.settings ∧ o'.overrides = o.overrides := by
  refine ⟨override_eq_none, fun o' fault failed => ?_⟩
  have faulty : ∃ v, env.Faulty v := by
    refine not_forall_not.mp fun sound => ?_
    have ok : (o.override env).2 = none := override_eq_none.mpr sound
    rw [failed] at ok
    cases ok
  obtain ⟨before, v, value, stops⟩ := exists_stopsAt faulty
  obtain ⟨s, fault', renews, words, run⟩ := o.override_of_stopsAt stops
  obtain ⟨rfl, same⟩ := Prod.mk.inj (failed.symm.trans run)
  obtain rfl := Option.some.inj same
  exact ⟨before, v, value, stops, words, renews, rfl⟩

/-- A lifetime that is no number comes after the image and before the address to listen on. -/
theorem fault_of_override_lifetime :
    ∃ (env : Environment) (o : Overridden) (fault : VariableFault),
      (⟨usual, []⟩ : Overridden).override env = (o, some fault) ∧ o.overrides = [] ∧
      fault.messages.head? = some "Invalid SANDBOX_TTL_MINUTES: soon" ∧
      o.settings.toJson.at? ["aio", "image"] = some (.str "mine") ∧
      o.settings.toJson.at? ["bind"] = usual.toJson.at? ["bind"] := by
  let env : Environment := fun name => List.lookup name
    [("AIO_SANDBOX_IMAGE", "mine"), ("SANDBOX_TTL_MINUTES", "soon"), ("SANDBOX_ROUTER_BIND", ":80")]
  have image : env.value? .aioImage = some "mine" := by decide +kernel
  have lifetime : env.value? .ttlMinutes = some "soon" := by decide +kernel
  have faulty : env.Faulty .ttlMinutes := by
    refine ⟨"soon", lifetime, ?_⟩
    change ¬ Text.IsNumeral (2 ^ 32) (Text.trim "soon")
    decide +kernel
  have only {v : Variable} {value : String} (hvalue : env.value? v = some value)
      (refused : v.Refuses value) : v = .ttlMinutes := by
    have unset : env.value? .aioEnabled = none ∧ env.value? .strict = none := by decide +kernel
    cases v with
    | ttlMinutes => rfl
    | aioEnabled => cases unset.1.symm.trans hvalue
    | strict => cases unset.2.symm.trans hvalue
    | _ => cases refused
  obtain ⟨none_iff, first⟩ := fault_of_override ⟨usual, []⟩ env
  obtain ⟨fault, failed⟩ :=
    Option.ne_none_iff_exists'.mp fun ok => none_iff.mp ok .ttlMinutes faulty
  obtain ⟨before, v, value, stops, words, renews, names⟩ := first _ fault (Prod.ext rfl failed)
  obtain rfl := only stops.set stops.refused
  obtain rfl := Option.some.inj (lifetime.symm.trans stops.set)
  obtain ⟨after, all⟩ := stops.order
  rw [List.append_assoc] at all
  have split : Variable.all = [.aioEnabled, .aioImage, .legacyImage, .legacyStem, .address,
      .network] ++ .ttlMinutes :: [.chromeArgs, .httpsProxy, .httpProxy, .noProxy, .strict,
      .bind] := rfl
  obtain ⟨rfl, -, -⟩ :=
    (List.append_cons_inj_of_notMem (by decide) (by decide)).mp (split.symm.trans all.symm)
  refine ⟨env, _, fault, Prod.ext rfl failed, names, words, ?_, ?_⟩
  · exact renews.new .aioImage (by decide) "mine" image
  · exact renews.old ["bind"] (by decide) (by decide)

/-- Whatever becomes of it, an environment leaves alone what its variables are not about. -/
lemma at?_override (o : Overridden) (env : Environment) {path : Path} (hpath : path ∈ paths)
    (unset : ∀ v : Variable, v.path = path → env.value? v = none) :
    (o.override env).1.settings.toJson.at? path = o.settings.toJson.at? path := by
  by_cases sound : ∀ v, ¬ env.Faulty v
  · obtain ⟨s, renews, run⟩ := o.override_of_sound sound
    rw [run]
    exact renews.old path hpath fun v _ => unset v
  · obtain ⟨before, v, value, stops⟩ := exists_stopsAt (not_forall_not.mp sound)
    obtain ⟨s, fault, renews, -, run⟩ := o.override_of_stopsAt stops
    rw [run]
    exact renews.old path hpath fun v _ => unset v

/-- Two environments in turn do to settings what they do at once, where the later one counts. -/
theorem compose_of_override (o : Overridden) {e₁ e₂ : Environment}
    (h₁ : (o.override e₁).2 = none) (h₂ : (o.override e₂).2 = none) :
    ∃ s, (o.override e₁).1.override e₂ = (⟨s, o.overrides ++ e₁.names ++ e₂.names⟩, none) ∧
      (∃ names, o.override (e₂.after e₁) = (⟨s, names⟩, none)) ∧
      ((∀ v, e₁.value? v = none ∨ e₂.value? v = none) →
        ∃ names, (o.override e₂).1.override e₁ = (⟨s, names⟩, none)) ∧
      (∃ names, (o.override e₁).1.override e₁ = (⟨(o.override e₁).1.settings, names⟩, none)) ∧
      ∀ (env : Environment), ∀ path ∈ paths,
        (∀ v : Variable, v.path = path → env.value? v = none) →
          (o.override env).1.settings.toJson.at? path = o.settings.toJson.at? path := by
  have sound₁ := override_eq_none.mp h₁
  have sound₂ := override_eq_none.mp h₂
  obtain ⟨s₁, renews₁, run₁⟩ := o.override_of_sound sound₁
  obtain ⟨s₂, renews₂, run₂⟩ := o.override_of_sound sound₂
  rw [run₁, run₂]
  obtain ⟨s, renews, run⟩ := Overridden.override_of_sound ⟨s₁, o.overrides ++ e₁.names⟩ sound₂
  refine ⟨s, run, ?merged, ?swapped, ?again, fun env path => at?_override o env⟩
  case merged =>
    have sound : ∀ v, ¬ (e₂.after e₁).Faulty v := by
      intro v faulty
      rcases faulty.of_after with faulty | faulty
      · exact sound₂ v faulty
      · exact sound₁ v faulty
    obtain ⟨s', renews', run'⟩ := o.override_of_sound sound
    rw [run', renews'.unique (renews₁.trans renews) fun _ _ => rfl]
    exact ⟨_, rfl⟩
  case swapped =>
    intro disjoint
    obtain ⟨s', renews', run'⟩ := Overridden.override_of_sound ⟨s₂, o.overrides ++ e₂.names⟩ sound₁
    have same : ∀ v ∈ Variable.all, (e₁.after e₂).value? v = (e₂.after e₁).value? v := by
      intro v _
      rw [value?_after, value?_after]
      rcases disjoint v with unset | unset
      · rw [unset, Option.none_or, Option.or_none]
      · rw [unset, Option.none_or, Option.or_none]
    rw [run', (renews₂.trans renews').unique (renews₁.trans renews) same]
    exact ⟨_, rfl⟩
  case again =>
    obtain ⟨s', renews', run'⟩ := Overridden.override_of_sound ⟨s₁, o.overrides ++ e₁.names⟩ sound₁
    have same : ∀ v ∈ Variable.all, (e₁.after e₁).value? v = e₁.value? v := by
      intro v _
      rw [value?_after, Option.or_self]
    rw [run', (renews₁.trans renews').unique renews₁ same]
    exact ⟨_, rfl⟩

/-- Two environments that set different variables, one of which is blank in the other. -/
theorem compose_of_override_lifetime :
    ∃ (e₁ e₂ : Environment) (s : Settings),
      ((⟨usual, []⟩ : Overridden).override e₁).2 = none ∧
      ((⟨usual, []⟩ : Overridden).override e₂).2 = none ∧
      ((⟨usual, []⟩ : Overridden).override e₁).1.override e₂ =
        (⟨s, ["AIO_SANDBOX_ENABLED", "SANDBOX_TTL_MINUTES"]⟩, none) ∧
      ∃ names, (⟨usual, []⟩ : Overridden).override (e₂.after e₁) = (⟨s, names⟩, none) := by
  let e₁ : Environment := fun name => List.lookup name
    [("AIO_SANDBOX_ENABLED", " Yes "), ("SANDBOX_IMAGE", " ")]
  let e₂ : Environment := fun name => List.lookup name
    [("AIO_SANDBOX_ENABLED", ""), ("SANDBOX_TTL_MINUTES", "+30")]
  have h₁ : ((⟨usual, []⟩ : Overridden).override e₁).2 = none := by decide +kernel
  have h₂ : ((⟨usual, []⟩ : Overridden).override e₂).2 = none := by decide +kernel
  have names : [] ++ e₁.names ++ e₂.names = ["AIO_SANDBOX_ENABLED", "SANDBOX_TTL_MINUTES"] := by
    decide +kernel
  obtain ⟨s, run, merged, -⟩ := compose_of_override ⟨usual, []⟩ h₁ h₂
  rw [names] at run
  exact ⟨e₁, e₂, s, h₁, h₂, run, merged⟩

end Overridden

end Sandboxes.Settings
