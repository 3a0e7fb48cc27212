import Sandboxes.Json.Record
import Sandboxes.Settings.Basic

/-!
# Settings in documents

Settings are read from a document that mentions any of them and written to one that mentions all.
Sections and settings that the document leaves out have their usual value; the ports of a section
that is given have the same usual values for both variants.
-/

namespace Sandboxes

open Json

/-! ### Reading -/

/-- Ports of a section. -/
def Ports.ofJson? (j : Json) : Option Ports := do
  match ← fields? ["api", "vnc", "cdp"] j with
  | [api, vnc, cdp] =>
    return {
      api := ← fieldOr Ports.usual.api uint16? api
      vnc := ← fieldOr Ports.usual.vnc uint16? vnc
      cdp := ← fieldOr Ports.usual.cdp uint16? cdp }
  | _ => none

/-- The readiness section. -/
def Readiness.ofJson? (j : Json) : Option Readiness := do
  match ← fields? ["max_attempts", "interval_ms", "attempt_timeout_ms", "strict"] j with
  | [attempts, interval, attempt, strict] =>
    return {
      maxAttempts := ← fieldOr usual.maxAttempts uint32? attempts
      intervalMillis := ← fieldOr usual.intervalMillis uint64? interval
      attemptMillis := ← fieldOr usual.attemptMillis uint64? attempt
      strict := ← fieldOr usual.strict bool? strict }
  | _ => none

namespace Settings

/-- A text that may be missing. -/
def text? : Json → Option (Option String) :=
  optional? string?

/-- The legacy section. -/
def Legacy.ofJson? (j : Json) : Option Legacy := do
  match ← fields? ["image", "name_prefix", "ttl_minutes", "chrome_args", "https_proxy",
    "http_proxy", "no_proxy", "ports"] j with
  | [image, stem, ttl, chrome, https, http, no, ports] =>
    return {
      image := ← fieldOr usual.image string? image
      stem := ← fieldOr usual.stem string? stem
      ttlMinutes := ← fieldOr usual.ttlMinutes (optional? uint32?) ttl
      chromeArgs := ← fieldOr usual.chromeArgs text? chrome
      httpsProxy := ← fieldOr usual.httpsProxy text? https
      httpProxy := ← fieldOr usual.httpProxy text? http
      noProxy := ← fieldOr usual.noProxy text? no
      ports := ← fieldOr usual.ports Ports.ofJson? ports }
  | _ => none

/-- Names with texts, ordered by name, the last text of a name counting. -/
def texts? (j : Json) : Option (List (String × String)) := do
  let members ← j.settle.members?
  members.mapM fun (name, value) => do return (name, ← value.string?)

/-- The section of the all-in-one variant. -/
def Aio.ofJson? (j : Json) : Option Aio := do
  match ← fields? ["enabled", "image", "name_prefix", "homepage", "extra_env", "ports"] j with
  | [enabled, image, stem, homepage, extra, ports] =>
    return {
      enabled := ← fieldOr usual.enabled bool? enabled
      image := ← fieldOr usual.image string? image
      stem := ← fieldOr usual.stem string? stem
      homepage := ← fieldOr usual.homepage string? homepage
      extraEnv := ← fieldOr usual.extraEnv texts? extra
      ports := ← fieldOr usual.ports Ports.ofJson? ports }
  | _ => none

/-- The log format of that name. -/
def LogFormat.ofName? (name : String) : Option LogFormat :=
  [pretty, json].find? (·.name = name)

/-- A log format is written as its name, or as the only member of a table, with `nothing` in it. -/
def LogFormat.ofJson? (nothing : Json → Bool) : Json → Option LogFormat
  | .str name => ofName? name
  | .obj [(name, value)] => if nothing value then ofName? name else none
  | _ => none

/-- The logging section. -/
def Logging.ofJson? (nothing : Json → Bool) (j : Json) : Option Logging := do
  match ← fields? ["format", "file"] j with
  | [format, file] =>
    return {
      format := ← fieldOr usual.format (LogFormat.ofJson? nothing) format
      file := ← fieldOr usual.file text? file }
  | _ => none

/-- All settings. `nothing` holds for the values that say nothing in the document's notation. -/
def ofDocument? (nothing : Json → Bool) (j : Json) : Option Settings := do
  match ← fields? ["bind", "api_timeout_secs", "sandbox_address", "sandbox_network",
    "resolver_cache_size", "instance_cache_size", "legacy", "aio", "readiness", "logging"] j with
  | [bind, timeout, address, network, resolver, instances, legacy, aio, readiness, logging] =>
    return {
      bind := ← fieldOr usual.bind string? bind
      apiTimeoutSeconds := ← fieldOr usual.apiTimeoutSeconds uint64? timeout
      sandboxAddress := ← fieldOr usual.sandboxAddress text? address
      sandboxNetwork := ← fieldOr usual.sandboxNetwork text? network
      resolverCacheSize := ← fieldOr usual.resolverCacheSize uint64? resolver
      instanceCacheSize := ← fieldOr usual.instanceCacheSize uint64? instances
      legacy := ← fieldOr usual.legacy Legacy.ofJson? legacy
      aio := ← fieldOr usual.aio Aio.ofJson? aio
      readiness := ← fieldOr usual.readiness Readiness.ofJson? readiness
      logging := ← fieldOr usual.logging (Logging.ofJson? nothing) logging }
  | _ => none

/-- Settings of a JSON document, where null says nothing. -/
def ofJson? : Json → Option Settings :=
  ofDocument? fun
    | .null => true
    | _ => false

/-- Settings of a TOML document, where an empty table or array says nothing. -/
def ofToml? : Json → Option Settings :=
  ofDocument? fun
    | .obj [] | .arr [] => true
    | _ => false

/-! ### Writing -/

end Settings

/-- The document of a section's ports. -/
def Ports.toJson (p : Ports) : Json :=
  .obj [("api", ofNat p.api.toNat), ("cdp", ofNat p.cdp.toNat), ("vnc", ofNat p.vnc.toNat)]

/-- The document of the readiness section. -/
def Readiness.toJson (r : Readiness) : Json :=
  .obj [("attempt_timeout_ms", ofNat r.attemptMillis.toNat),
    ("interval_ms", ofNat r.intervalMillis.toNat),
    ("max_attempts", ofNat r.maxAttempts.toNat), ("strict", .bool r.strict)]

namespace Settings

/-- The document of the legacy section. -/
def Legacy.toJson (l : Legacy) : Json :=
  .obj [("chrome_args", ofOption .str l.chromeArgs), ("http_proxy", ofOption .str l.httpProxy),
    ("https_proxy", ofOption .str l.httpsProxy), ("image", .str l.image),
    ("name_prefix", .str l.stem), ("no_proxy", ofOption .str l.noProxy),
    ("ports", l.ports.toJson), ("ttl_minutes", ofOption (ofNat ·.toNat) l.ttlMinutes)]

/-- The document of the section of the all-in-one variant. -/
def Aio.toJson (a : Aio) : Json :=
  .obj [("enabled", .bool a.enabled),
    ("extra_env", .obj (a.extraEnv.map fun (name, value) => (name, .str value))),
    ("homepage", .str a.homepage), ("image", .str a.image), ("name_prefix", .str a.stem),
    ("ports", a.ports.toJson)]

/-- The document of the logging section. -/
def Logging.toJson (l : Logging) : Json :=
  .obj [("file", ofOption .str l.file), ("format", .str l.format.name)]

/-- The document that mentions every setting. -/
def toJson (s : Settings) : Json :=
  .obj [("aio", s.aio.toJson), ("api_timeout_secs", ofNat s.apiTimeoutSeconds.toNat),
    ("bind", .str s.bind), ("instance_cache_size", ofNat s.instanceCacheSize.toNat),
    ("legacy", s.legacy.toJson), ("logging", s.logging.toJson),
    ("readiness", s.readiness.toJson), ("resolver_cache_size", ofNat s.resolverCacheSize.toNat),
    ("sandbox_address", ofOption .str s.sandboxAddress),
    ("sandbox_network", ofOption .str s.sandboxNetwork)]

end Settings

end Sandboxes
