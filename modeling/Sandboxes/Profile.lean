import Sandboxes.Container.Spec
import Sandboxes.Settings.Basic
import Sandboxes.Text.Digits

/-!
# Profiles

What the settings make of a variant: how its containers are made and named, and where and for how
long its sandboxes are asked.
-/

namespace Sandboxes

/-- A variant under given settings. -/
structure Profile where
  variant : Variant
  /-- Container names are this stem, a hyphen and eight digits. -/
  stem : String
  ports : Ports
  template : Container.Template
  readiness : Readiness
  /-- Limit of a request to a control interface. -/
  limit : Duration
  deriving DecidableEq, Repr

namespace Profile

/-! ### Names -/

/-- The name of a container for a number that was drawn. -/
def containerName (p : Profile) (number : UInt32) : String :=
  p.stem ++ "-" ++ String.ofList (Text.hexPadded 8 number.toNat)

/-- Whether a container of that name may be removed: its name is the stem and a hyphen, and whatever
follows. -/
def owns (p : Profile) (name : String) : Bool :=
  match Text.dropFront? p.stem.toList name.toList with
  | some ('-' :: _) => true
  | _ => false

/-- The name of a sandbox whose container has none. -/
def placeholder (p : Profile) : String :=
  p.variant.name ++ "-sandbox-dev"

/-! ### Of the settings -/

open Container Settings

/-- The environment of legacy containers: what is set, and nothing else. -/
def legacyEnv (l : Legacy) : Env :=
  Env.setAll [] <| [("SERVICE_TIMEOUT_MINUTES", l.ttlMinutes.map (toString ·.toNat)),
    ("CHROME_ARGS", l.chromeArgs), ("HTTPS_PROXY", l.httpsProxy), ("HTTP_PROXY", l.httpProxy),
    ("NO_PROXY", l.noProxy)].filterMap fun (name, value?) => value?.map (name, ·)

/-- The legacy variant. -/
def legacy (s : Settings) : Profile where
  variant := .legacy
  stem := s.legacy.stem
  ports := s.legacy.ports
  template := {
    image := s.legacy.image
    env := legacyEnv s.legacy
    volumes := []
    publish := []
    securityOptions := []
    extraHosts := []
    sharedMemory := none
    network := s.sandboxNetwork
    healthCheck := none
    autoRemove := true }
  readiness := s.readiness
  limit := s.apiTimeout

/-- The environment of all-in-one containers: fixed variables, the homepage, and over them what is
set. -/
def aioEnv (a : Aio) : Env :=
  let fixed := Env.setAll [] [("WORKSPACE", "/home/gem"), ("TZ", "UTC"), ("PROXY_SERVER", ""),
    ("JWT_PUBLIC_KEY", ""), ("DNS_OVER_HTTPS_TEMPLATES", ""),
    ("BROWSER_EXTRA_ARGS", "--disable-gpu"), ("WAIT_PORTS", "3000,5000")]
  (fixed.set "HOMEPAGE" a.homepage).setAll a.extraEnv

/-- The name of a volume of all-in-one containers. -/
def aioVolume (purpose : String) : String :=
  "aio-" ++ Template.nameMark ++ "-" ++ purpose

/-- The health check of all-in-one containers: every thirty seconds, for at most ten. -/
def aioHealthCheck : HealthCheck where
  test := ["CMD", "curl", "-f", "http://localhost:8080/health"]
  interval := 30 * 10 ^ 9
  timeout := 10 * 10 ^ 9
  retries := 3

/-- The all-in-one variant. -/
def aio (s : Settings) : Profile where
  variant := .aio
  stem := s.aio.stem
  ports := s.aio.ports
  template := {
    image := s.aio.image
    env := aioEnv s.aio
    volumes := [(aioVolume "workspace", "/home/gem/workspace"),
      (aioVolume "shared", "/home/gem/shared")]
    publish := [s.aio.ports.api, s.aio.ports.vnc, s.aio.ports.cdp]
    securityOptions := ["seccomp:unconfined"]
    extraHosts := ["host.docker.internal:host-gateway"]
    sharedMemory := some (2 * 2 ^ 30)
    network := s.sandboxNetwork
    healthCheck := some aioHealthCheck
    autoRemove := true }
  readiness := s.readiness
  limit := s.apiTimeout

/-- A variant under given settings. -/
def ofSettings (s : Settings) : Variant → Profile
  | .legacy => legacy s
  | .aio => aio s

end Profile

end Sandboxes
