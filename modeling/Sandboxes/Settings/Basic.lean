import Sandboxes.Duration
import Sandboxes.Variant

/-!
# Settings

Everything that can be set, in sections, with the value each setting has when nothing is said.
-/

namespace Sandboxes

/-- The ports of a sandbox's services. -/
structure Ports where
  /-- Control interface. -/
  api : UInt16
  /-- Remote desktop. -/
  vnc : UInt16
  /-- Browser debugging. -/
  cdp : UInt16
  deriving DecidableEq, Repr

/-- The ports of a section that mentions none of them by name. -/
def Ports.usual : Ports where
  api := 8080
  vnc := 5900
  cdp := 9222

/-- How long to wait for a sandbox to become ready. -/
structure Readiness where
  maxAttempts : UInt32
  /-- Pause between two attempts, in thousandths of a second. -/
  intervalMillis : UInt64
  /-- Limit of a single attempt, in thousandths of a second. -/
  attemptMillis : UInt64
  /-- Whether a sandbox that does not become ready is a failure. -/
  strict : Bool
  deriving DecidableEq, Repr

namespace Readiness

def usual : Readiness where
  maxAttempts := 30
  intervalMillis := 2000
  attemptMillis := 5000
  strict := true

/-- The pause between two attempts. -/
def interval (r : Readiness) : Duration :=
  .ofMillis r.intervalMillis

/-- The limit of a single attempt. -/
def attemptLimit (r : Readiness) : Duration :=
  .ofMillis r.attemptMillis

/-- The number of attempts, of which there is at least one. -/
def attempts (r : Readiness) : Nat :=
  max 1 r.maxAttempts.toNat

end Readiness

namespace Settings

/-- The legacy variant. -/
structure Legacy where
  image : String
  /-- Container names are this stem, a hyphen and eight digits. -/
  stem : String
  /-- Idle minutes before the services shut down. -/
  ttlMinutes : Option UInt32
  chromeArgs : Option String
  httpsProxy : Option String
  httpProxy : Option String
  noProxy : Option String
  ports : Ports
  deriving DecidableEq, Repr

def Legacy.usual : Legacy where
  image := "simpleyyt/manus-sandbox"
  stem := "sandbox"
  ttlMinutes := none
  chromeArgs := none
  httpsProxy := none
  httpProxy := none
  noProxy := none
  ports := { Ports.usual with vnc := 5901 }

/-- The all-in-one variant. -/
structure Aio where
  /-- Whether the variant may be chosen; it is then the default one. -/
  enabled : Bool
  image : String
  /-- Container names are this stem, a hyphen and eight digits. -/
  stem : String
  /-- The page that the browser opens on start. -/
  homepage : String
  /-- Further environment of the container, ordered by name. -/
  extraEnv : List (String × String)
  ports : Ports
  deriving DecidableEq, Repr

def Aio.usual : Aio where
  enabled := false
  image := "ghcr.io/agent-infra/sandbox:latest"
  stem := "aio-sandbox"
  homepage := "https://example.com"
  extraEnv := []
  ports := .usual

/-- How log lines are written. -/
inductive LogFormat
  | pretty
  | json
  deriving DecidableEq, Repr

/-- The word for a log format. -/
def LogFormat.name : LogFormat → String
  | pretty => "pretty"
  | json => "json"

/-- Where and how log lines are written. -/
structure Logging where
  format : LogFormat
  /-- A file that receives the log lines too. -/
  file : Option String
  deriving DecidableEq, Repr

def Logging.usual : Logging where
  format := .pretty
  file := none

end Settings

/-- All settings. -/
structure Settings where
  /-- The address that the web interface listens on. -/
  bind : String
  /-- Limit of a request to a control interface. -/
  apiTimeoutSeconds : UInt64
  /-- The address of a sandbox that is managed elsewhere. When it is set, no containers are made or
  removed. -/
  sandboxAddress : Option String
  /-- The Docker network that containers join. -/
  sandboxNetwork : Option String
  /-- How many host names the resolver remembers. -/
  resolverCacheSize : UInt64
  /-- How many attached sandboxes are kept per variant. -/
  instanceCacheSize : UInt64
  legacy : Settings.Legacy
  aio : Settings.Aio
  readiness : Readiness
  logging : Settings.Logging
  deriving DecidableEq, Repr

namespace Settings

/-- The settings when nothing is said. -/
def usual : Settings where
  bind := "127.0.0.1:8000"
  apiTimeoutSeconds := 600
  sandboxAddress := none
  sandboxNetwork := none
  resolverCacheSize := 128
  instanceCacheSize := 128
  legacy := .usual
  aio := .usual
  readiness := .usual
  logging := .usual

/-- Limit of a request to a control interface. -/
def apiTimeout (s : Settings) : Duration :=
  .ofSeconds s.apiTimeoutSeconds

/-- The variant that is used when none is asked for. -/
def defaultVariant (s : Settings) : Variant :=
  if s.aio.enabled then .aio else .legacy

/-- What is wrong with settings that nothing can work with. -/
def fault? (s : Settings) : Option String :=
  if s.resolverCacheSize = 0 then some "resolver_cache_size must be at least 1"
  else if s.instanceCacheSize = 0 then some "instance_cache_size must be at least 1"
  else none

end Settings

end Sandboxes
