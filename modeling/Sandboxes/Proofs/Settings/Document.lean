import Sandboxes.Proofs.Json.Record
import Sandboxes.Settings.Document

/-!
# Partial documents

A document decides the settings that it mentions. The others are as usual, but for one: a table of
ports that leaves out the remote desktop of the legacy variant gives it the port of the other
variant.
-/

namespace Sandboxes

open Json

/-! ### The settings -/

namespace Settings

/-- The settings of a table of ports. -/
def portPaths : List Path :=
  [["api"], ["vnc"], ["cdp"]]

def readinessPaths : List Path :=
  [["max_attempts"], ["interval_ms"], ["attempt_timeout_ms"], ["strict"]]

def legacyPaths : List Path :=
  [["image"], ["name_prefix"], ["ttl_minutes"], ["chrome_args"], ["https_proxy"], ["http_proxy"],
    ["no_proxy"]] ++ portPaths.map ("ports" :: ·)

def aioPaths : List Path :=
  [["enabled"], ["image"], ["name_prefix"], ["homepage"], ["extra_env"]] ++
    portPaths.map ("ports" :: ·)

def loggingPaths : List Path :=
  [["format"], ["file"]]

/-- All settings, by their place in a document. -/
def paths : List Path :=
  [["bind"], ["api_timeout_secs"], ["sandbox_address"], ["sandbox_network"],
    ["resolver_cache_size"], ["instance_cache_size"]] ++ legacyPaths.map ("legacy" :: ·) ++
    aioPaths.map ("aio" :: ·) ++ readinessPaths.map ("readiness" :: ·) ++
    loggingPaths.map ("logging" :: ·)

/-- The tables that settings are in, from the whole document on. -/
def tables : List Path :=
  [[], ["legacy"], ["legacy", "ports"], ["aio"], ["aio", "ports"], ["readiness"], ["logging"]]

/-- The value of a setting without the freedom that documents have in writing it: the last text of
a name counts, and a log format may stand alone in a table. -/
def plain : Path → Json → Json
  | ["aio", "extra_env"], j => j.settle
  | ["logging", "format"], .obj [(name, _)] => .str name
  | _, j => j

/-- Below `above`, what is written is in plain form what was given, and the fallback where nothing
was given. -/
def Follows (above : Path) (paths : List Path) (given : Json) (written fallback : Json) : Prop :=
  ∀ path ∈ paths,
    written.at? path = ((given.at? path).map (plain (above ++ path))).or (fallback.at? path)

/-! ### Members and parts -/

section

variable {α : Type} {above : Path} {paths more : List Path} {name : String} {given : Members}
  {written fallback : Json} {read : Json → Option α} {write : α → Json} {absent a : α}

lemma Follows.nil : Follows above [] (.obj given) written fallback := by
  intro path h
  cases h

lemma Follows.append (h : Follows above paths (.obj given) written fallback)
    (h' : Follows above more (.obj given) written fallback) :
    Follows above (paths ++ more) (.obj given) written fallback :=
  List.forall_mem_append.mpr ⟨h, h'⟩

/-- A member that holds a setting. -/
lemma Follows.member {form : Json → Json}
    (rest : Follows above paths (.obj given) written fallback) (m : Mirrors read form write)
    (h : fieldOr absent read (lookup name given) = some a)
    (hform : plain (above ++ [name]) = form) (hwritten : written.get? name = some (write a))
    (hfallback : fallback.get? name = some (write absent)) :
    Follows above ([name] :: paths) (.obj given) written fallback := by
  refine List.forall_mem_cons.mpr ⟨?_, rest⟩
  rw [at?_singleton, at?_singleton, at?_singleton, hwritten, hfallback, hform]
  exact m.field h

/-- A member that holds further settings, given as a table. -/
lemma Follows.part {part : Json} (write : α → Json)
    (h : fieldOr absent read (lookup name given) = some a)
    (hwritten : written.get? name = some (write a)) (hfallback : fallback.get? name = some part)
    (missing : lookup name given = none → part = write absent)
    (table : ∀ j, lookup name given = some j → read j = some a →
      Follows (above ++ [name]) paths j (write a) part) :
    Follows above (paths.map (name :: ·)) (.obj given) written fallback := by
  refine List.forall_mem_map.mpr fun path hpath => ?_
  rw [at?_cons, at?_cons, at?_cons, hwritten, hfallback, get?]
  cases hgiven : lookup name given with
  | none =>
    rw [hgiven] at h
    obtain rfl := Option.some.inj h
    rw [missing hgiven]
    rfl
  | some j =>
    rw [hgiven] at h
    have follows := table j hgiven h path hpath
    rwa [List.append_assoc] at follows

end

/-! ### What sections hold -/

lemma mirrors_text? : Mirrors text? id (ofOption .str) :=
  mirrors_string?.optional

lemma mirrors_texts? :
    Mirrors texts? settle fun texts => .obj (texts.map fun (name, value) => (name, .str value)) := by
  intro j texts h
  obtain ⟨members, hmembers, hread⟩ := Option.bind_eq_some_iff.mp h
  have settled : j.settle = .obj members := by
    cases hj : j.settle <;> simp_all [members?]
  rw [settled, ← List.map_id members]
  refine congrArg Json.obj (map_eq_map_of_mapM ?_ hread).symm
  intro (name, value) (name', text) h
  obtain ⟨_, htext, h⟩ := Option.bind_eq_some_iff.mp h
  cases h
  change (name, value) = (name, Json.str text)
  rw [mirrors_string? htext]
  rfl

lemma mirrors_format {nothing : Json → Bool} :
    Mirrors (LogFormat.ofJson? nothing) (plain ["logging", "format"]) (.str ·.name) := by
  have named {name : String} {f : LogFormat} (h : LogFormat.ofName? name = some f) :
      f.name = name := by
    simpa using List.find?_some h
  intro j f h
  unfold LogFormat.ofJson? at h
  split at h
  · exact congrArg Json.str (named h)
  · split at h
    · exact congrArg Json.str (named h)
    · cases h
  · cases h

/-! ### Sections -/

end Settings

open Settings

lemma plain_port (variant name : String) : plain [variant, "ports", name] = id := by
  funext j
  simp [plain]

lemma Ports.follows {variant : String} {given : Members} {p : Ports}
    (h : Ports.ofJson? (.obj given) = some p) :
    Follows [variant, "ports"] portPaths (.obj given) p.toJson Ports.usual.toJson := by
  unfold Ports.ofJson? at h
  have h := of_bind_fields? h
  simp only [List.map_cons, List.map_nil, Option.bind_eq_bind, Option.bind_eq_some_iff,
    Option.pure_def, Option.some.injEq] at h
  obtain ⟨api, hapi, vnc, hvnc, cdp, hcdp, rfl⟩ := h
  exact Follows.nil
    |>.member mirrors_uint16? hcdp (plain_port ..) rfl rfl
    |>.member mirrors_uint16? hvnc (plain_port ..) rfl rfl
    |>.member mirrors_uint16? hapi (plain_port ..) rfl rfl

lemma Readiness.follows {given : Members} {r : Readiness}
    (h : Readiness.ofJson? (.obj given) = some r) :
    Follows ["readiness"] readinessPaths (.obj given) r.toJson Readiness.usual.toJson := by
  unfold Readiness.ofJson? at h
  have h := of_bind_fields? h
  simp only [List.map_cons, List.map_nil, Option.bind_eq_bind, Option.bind_eq_some_iff,
    Option.pure_def, Option.some.injEq] at h
  obtain ⟨attempts, hattempts, interval, hinterval, attempt, hattempt, strict, hstrict, rfl⟩ := h
  exact Follows.nil
    |>.member mirrors_bool? hstrict rfl rfl rfl
    |>.member mirrors_uint64? hattempt rfl rfl rfl
    |>.member mirrors_uint64? hinterval rfl rfl rfl
    |>.member mirrors_uint32? hattempts rfl rfl rfl

/-- What a legacy section falls back on, by the ports that it gives: the reader of given ports does
not know for which variant they are. -/
def Settings.Legacy.base (ports : Option Json) : Legacy :=
  { Legacy.usual with ports := if ports.isSome then .usual else Legacy.usual.ports }

lemma Settings.Legacy.follows {given : Members} {l : Legacy}
    (h : Legacy.ofJson? (.obj given) = some l)
    (tabular : ∀ j, lookup "ports" given = some j → j.isObj) :
    Follows ["legacy"] legacyPaths (.obj given) l.toJson
      (Legacy.base (lookup "ports" given)).toJson := by
  unfold Legacy.ofJson? at h
  have h := of_bind_fields? h
  simp only [List.map_cons, List.map_nil, Option.bind_eq_bind, Option.bind_eq_some_iff,
    Option.pure_def, Option.some.injEq] at h
  obtain ⟨image, himage, stem, hstem, ttl, httl, chrome, hchrome, https, hhttps, http, hhttp, no,
    hno, ports, hports, rfl⟩ := h
  -- The members in reverse, as each is put in front of those after it.
  refine Follows.append (Follows.nil
    |>.member mirrors_text? hno rfl rfl rfl
    |>.member mirrors_text? hhttp rfl rfl rfl
    |>.member mirrors_text? hhttps rfl rfl rfl
    |>.member mirrors_text? hchrome rfl rfl rfl
    |>.member mirrors_uint32?.optional httl rfl rfl rfl
    |>.member mirrors_string? hstem rfl rfl rfl
    |>.member mirrors_string? himage rfl rfl rfl) ?_
  refine Follows.part Ports.toJson hports rfl rfl (fun missing => ?_) fun j hj h => ?_
  · rw [Legacy.base, missing]
    rfl
  · obtain ⟨members, rfl⟩ := exists_members (tabular j hj)
    rw [Legacy.base, hj]
    exact Ports.follows h

lemma Settings.Aio.follows {given : Members} {a : Aio} (h : Aio.ofJson? (.obj given) = some a)
    (tabular : ∀ j, lookup "ports" given = some j → j.isObj) :
    Follows ["aio"] aioPaths (.obj given) a.toJson Aio.usual.toJson := by
  unfold Aio.ofJson? at h
  have h := of_bind_fields? h
  simp only [List.map_cons, List.map_nil, Option.bind_eq_bind, Option.bind_eq_some_iff,
    Option.pure_def, Option.some.injEq] at h
  obtain ⟨enabled, henabled, image, himage, stem, hstem, homepage, hhomepage, extra, hextra, ports,
    hports, rfl⟩ := h
  refine Follows.append (Follows.nil
    |>.member mirrors_texts? hextra rfl rfl rfl
    |>.member mirrors_string? hhomepage rfl rfl rfl
    |>.member mirrors_string? hstem rfl rfl rfl
    |>.member mirrors_string? himage rfl rfl rfl
    |>.member mirrors_bool? henabled rfl rfl rfl) ?_
  refine Follows.part Ports.toJson hports rfl rfl (fun _ => rfl) fun j hj h => ?_
  obtain ⟨members, rfl⟩ := exists_members (tabular j hj)
  exact Ports.follows h

lemma Settings.Logging.follows {nothing : Json → Bool} {given : Members} {l : Logging}
    (h : Logging.ofJson? nothing (.obj given) = some l) :
    Follows ["logging"] loggingPaths (.obj given) l.toJson Logging.usual.toJson := by
  unfold Logging.ofJson? at h
  have h := of_bind_fields? h
  simp only [List.map_cons, List.map_nil, Option.bind_eq_bind, Option.bind_eq_some_iff,
    Option.pure_def, Option.some.injEq] at h
  obtain ⟨format, hformat, file, hfile, rfl⟩ := h
  exact Follows.nil
    |>.member mirrors_text? hfile rfl rfl rfl
    |>.member mirrors_format hformat rfl rfl rfl

/-! ### The whole document -/

namespace Settings

/-- What a document falls back on, by the legacy variant's ports that it gives. -/
def base (ports : Option Json) : Settings :=
  { usual with legacy := Legacy.base ports }

/-- The settings are given in tables. -/
def Tabular (j : Json) : Prop :=
  ∀ path ∈ tables, (j.at? path).all isObj

instance (j : Json) : Decidable (Tabular j) :=
  inferInstanceAs (Decidable (∀ path ∈ tables, (j.at? path).all isObj))

lemma Tabular.isObj {j part : Json} (h : Tabular j) {path : Path} (hpath : path ∈ tables)
    (hpart : j.at? path = some part) : part.isObj := by
  have table := h path hpath
  rwa [hpart] at table

lemma follows_of_ofDocument? {nothing : Json → Bool} {j : Json} {s : Settings}
    (h : ofDocument? nothing j = some s) (tabular : Tabular j) :
    Follows [] paths j s.toJson (base (j.at? ["legacy", "ports"])).toJson := by
  have top : [] ∈ tables := by decide
  obtain ⟨given, rfl⟩ := exists_members (tabular.isObj top rfl)
  have table {name : String} (hname : [name] ∈ tables) {part : Json}
      (hpart : lookup name given = some part) : ∃ members, part = .obj members :=
    exists_members (tabular.isObj hname ((at?_singleton ..).trans hpart))
  have at?_ports {name : String} {members : Members} (h : lookup name given = some (.obj members)) :
      (Json.obj given).at? [name, "ports"] = lookup "ports" members := by
    rw [at?_cons, get?, h]
    exact at?_singleton "ports" (.obj members)
  unfold ofDocument? at h
  have h := of_bind_fields? h
  simp only [List.map_cons, List.map_nil, Option.bind_eq_bind, Option.bind_eq_some_iff,
    Option.pure_def, Option.some.injEq] at h
  obtain ⟨bind, hbind, timeout, htimeout, address, haddress, network, hnetwork, resolver,
    hresolver, instances, hinstances, legacy, hlegacy, aio, haio, readiness, hreadiness, logging,
    hlogging, rfl⟩ := h
  refine .append (.append (.append (.append (Follows.nil
    |>.member mirrors_uint64? hinstances rfl rfl rfl
    |>.member mirrors_uint64? hresolver rfl rfl rfl
    |>.member mirrors_text? hnetwork rfl rfl rfl
    |>.member mirrors_text? haddress rfl rfl rfl
    |>.member mirrors_uint64? htimeout rfl rfl rfl
    |>.member mirrors_string? hbind rfl rfl rfl) ?legacy) ?aio) ?readiness) ?logging
  case legacy =>
    refine Follows.part Legacy.toJson hlegacy rfl rfl (fun missing => ?_) fun j hj h => ?_
    · rw [at?_cons, get?, missing]
      rfl
    · obtain ⟨members, rfl⟩ := table (by decide) hj
      rw [at?_ports hj]
      refine Legacy.follows h fun ports hports => ?_
      exact tabular.isObj (by decide) ((at?_ports hj).trans hports)
  case aio =>
    refine Follows.part Aio.toJson haio rfl rfl (fun _ => rfl) fun j hj h => ?_
    obtain ⟨members, rfl⟩ := table (by decide) hj
    refine Aio.follows h fun ports hports => ?_
    exact tabular.isObj (by decide) ((at?_ports hj).trans hports)
  case readiness =>
    refine Follows.part Readiness.toJson hreadiness rfl rfl (fun _ => rfl) fun j hj h => ?_
    obtain ⟨members, rfl⟩ := table (by decide) hj
    exact Readiness.follows h
  case logging =>
    refine Follows.part Logging.toJson hlogging rfl rfl (fun _ => rfl) fun j hj h => ?_
    obtain ⟨members, rfl⟩ := table (by decide) hj
    exact Logging.follows h

/-- The fallback differs from the usual settings in the legacy variant's remote desktop, once a
table of its ports is given. -/
lemma at?_base (ports : Option Json) {path : Path} (hpath : path ∈ paths) :
    (base ports).toJson.at? path =
      if path = ["legacy", "ports", "vnc"] ∧ ports.isSome then some (ofNat Ports.usual.vnc.toNat)
      else usual.toJson.at? path := by
  cases ports with
  | none => simp [base, Legacy.base, usual]
  | some j =>
    -- The places are finitely many, and the two documents are compared at each of them.
    have same : paths.map (fun path => (base (some j)).toJson.at? path) = paths.map fun path =>
        if path = ["legacy", "ports", "vnc"] ∧ (some j).isSome then
          some (ofNat Ports.usual.vnc.toNat)
        else usual.toJson.at? path := rfl
    exact List.map_inj_left.mp same path hpath

/-- A setting that a document in tables mentions has the document's value. Any other is as usual,
but for the legacy variant's remote desktop in a document that gives other ports of it. -/
theorem value_of_document {nothing : Json → Bool} {j : Json} {s : Settings}
    (h : ofDocument? nothing j = some s) (tabular : Tabular j) {path : Path}
    (hpath : path ∈ paths) :
    (∀ value, j.at? path = some value → s.toJson.at? path = some (plain path value)) ∧
      (j.at? path = none → s.toJson.at? path =
        if path = ["legacy", "ports", "vnc"] ∧ (j.at? ["legacy", "ports"]).isSome then
          some (ofNat Ports.usual.vnc.toNat)
        else usual.toJson.at? path) := by
  have follows := follows_of_ofDocument? h tabular path hpath
  constructor
  · intro value given
    rw [follows, given]
    rfl
  · intro missing
    rw [follows, missing, ← at?_base _ hpath]
    rfl

/-- A document that only turns strictness off leaves every other leaf at its usual value. -/
theorem value_of_document_strict :
    ∃ j s, ofJson? j = some s ∧ Tabular j ∧
      s.toJson.at? ["readiness", "strict"] = some (.bool false) ∧
      s.toJson.at? ["readiness", "max_attempts"] = some (ofNat 30) ∧
      s.toJson.at? ["legacy", "ports", "vnc"] = some (ofNat 5901) := by
  have tabular : Tabular (.obj [("readiness", .obj [("strict", .bool false)])]) := by decide
  have read : ofJson? (.obj [("readiness", .obj [("strict", .bool false)])]) =
      some { usual with readiness := { Readiness.usual with strict := false } } := rfl
  refine ⟨_, _, read, tabular, ?_, ?_, ?_⟩
  · exact (value_of_document read tabular (by decide)).1 _ rfl
  · exact (value_of_document read tabular (by decide)).2 rfl
  · exact (value_of_document read tabular (by decide)).2 rfl

/-- The legacy variant's remote desktop moves when its ports are given without it. -/
theorem vnc_of_other_ports :
    ∃ s, ofToml? (.obj [("legacy", .obj [("ports", .obj [("api", ofNat 9090)])])]) = some s ∧
      s.toJson.at? ["legacy", "ports", "vnc"] ≠ usual.toJson.at? ["legacy", "ports", "vnc"] := by
  refine ⟨_, rfl, ?_⟩
  change some (ofNat 5900) ≠ some (ofNat 5901)
  simp [ofNat_inj]

end Settings

/-! ### What the places tell -/

lemma Ports.eq_of_at? {p q : Ports} (h : ∀ path ∈ portPaths, p.toJson.at? path = q.toJson.at? path) :
    p = q := by
  cases p
  cases q
  simpa [portPaths, at?_singleton, get?, toJson, lookup, ofNat_inj, UInt16.toNat_inj] using h

lemma Readiness.eq_of_at? {r t : Readiness}
    (h : ∀ path ∈ readinessPaths, r.toJson.at? path = t.toJson.at? path) : r = t := by
  cases r
  cases t
  simpa [readinessPaths, at?_singleton, get?, toJson, lookup, ofNat_inj, UInt32.toNat_inj,
    UInt64.toNat_inj] using h

namespace Settings

lemma ofText_inj {o o' : Option String} : ofOption .str o = ofOption .str o' ↔ o = o' :=
  ofOption_inj (fun _ _ => str.inj) nofun

lemma ofMinutes_inj {o o' : Option UInt32} :
    ofOption (ofNat ·.toNat) o = ofOption (ofNat ·.toNat) o' ↔ o = o' :=
  ofOption_inj (fun _ _ h => UInt32.toNat_inj.mp (ofNat_inj.mp h)) nofun

lemma ofTexts_inj {texts texts' : List (String × String)} :
    texts.map (fun (name, value) => (name, str value)) =
      texts'.map (fun (name, value) => (name, str value)) ↔ texts = texts' :=
  List.map_inj_right fun _ _ h => by simpa [Prod.ext_iff] using h

lemma LogFormat.name_inj {f g : LogFormat} : f.name = g.name ↔ f = g := by
  cases f <;> cases g <;> decide

lemma Legacy.eq_of_at? {l m : Legacy}
    (h : ∀ path ∈ legacyPaths, l.toJson.at? path = m.toJson.at? path) : l = m := by
  have ports : l.ports = m.ports :=
    Ports.eq_of_at? fun path hpath => h ("ports" :: path) (by simp [legacyPaths, hpath])
  have settings := (List.forall_mem_append.mp h).1
  cases l
  cases m
  simp_all [at?_singleton, get?, toJson, lookup, ofText_inj, ofMinutes_inj]

lemma Aio.eq_of_at? {a b : Aio}
    (h : ∀ path ∈ aioPaths, a.toJson.at? path = b.toJson.at? path) : a = b := by
  have ports : a.ports = b.ports :=
    Ports.eq_of_at? fun path hpath => h ("ports" :: path) (by simp [aioPaths, hpath])
  have settings := (List.forall_mem_append.mp h).1
  cases a
  cases b
  simp_all [at?_singleton, get?, toJson, lookup, ofTexts_inj]

lemma Logging.eq_of_at? {l m : Logging}
    (h : ∀ path ∈ loggingPaths, l.toJson.at? path = m.toJson.at? path) : l = m := by
  cases l
  cases m
  simpa [loggingPaths, at?_singleton, get?, toJson, lookup, ofText_inj, LogFormat.name_inj] using h

/-- Settings with the same value at every place are the same. -/
theorem eq_of_at? {s t : Settings} (h : ∀ path ∈ paths, s.toJson.at? path = t.toJson.at? path) :
    s = t := by
  have legacy : s.legacy = t.legacy :=
    Legacy.eq_of_at? fun path hpath => h ("legacy" :: path) (by simp [paths, hpath])
  have aio : s.aio = t.aio :=
    Aio.eq_of_at? fun path hpath => h ("aio" :: path) (by simp [paths, hpath])
  have readiness : s.readiness = t.readiness :=
    Readiness.eq_of_at? fun path hpath => h ("readiness" :: path) (by simp [paths, hpath])
  have logging : s.logging = t.logging :=
    Logging.eq_of_at? fun path hpath => h ("logging" :: path) (by simp [paths, hpath])
  simp only [paths, List.forall_mem_append] at h
  have settings := h.1.1.1.1
  cases s
  cases t
  simp_all [at?_singleton, get?, toJson, lookup, ofText_inj, ofNat_inj, UInt64.toNat_inj]

end Settings

end Sandboxes
