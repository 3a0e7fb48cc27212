import Sandboxes.Settings.Basic
import Sandboxes.Text.Blank
import Sandboxes.Text.Case
import Sandboxes.Text.Digits

/-!
# Settings in environment variables

Each of a fixed list of variables overrides one setting, in the order of the list. A variable whose
value is blank counts as unset. The first variable whose value cannot be read stops the rest.
-/

namespace Sandboxes.Settings

/-- Why the value of a variable cannot be read. -/
inductive VariableFault
  /-- The word, in lower case, is no truth value. -/
  | truth (name word : String)
  /-- The value is no number of minutes. -/
  | minutes (value : String) (fault : Text.NumeralFault)
  deriving DecidableEq, Repr

/-- The words for a fault, the outermost first. -/
def VariableFault.messages : VariableFault → List String
  | truth name word => ["Invalid boolean for " ++ name ++ ": " ++ word]
  | minutes value fault => ["Invalid SANDBOX_TTL_MINUTES: " ++ value, fault.message]

/-- A truth value of a variable. -/
def truth (name value : String) : Except VariableFault Bool :=
  let word := Text.lower (Text.trim value)
  if word ∈ ["1", "true", "yes", "on"] then .ok true
  else if word ∈ ["0", "false", "no", "off"] then .ok false
  else .error (.truth name word)

/-- A number of minutes. -/
def minutes (value : String) : Except VariableFault UInt32 :=
  match Text.readNat (2 ^ 32) (Text.trim value) with
  | .ok n => .ok (.ofNat n)
  | .error fault => .error (.minutes value fault)

/-- A variable that overrides a setting. -/
inductive Variable
  | aioEnabled
  | aioImage
  | legacyImage
  | legacyStem
  | address
  | network
  | ttlMinutes
  | chromeArgs
  | httpsProxy
  | httpProxy
  | noProxy
  | strict
  | bind
  deriving DecidableEq, Repr

namespace Variable

/-- The variables in the order in which they are applied. -/
def all : List Variable :=
  [aioEnabled, aioImage, legacyImage, legacyStem, address, network, ttlMinutes, chromeArgs,
    httpsProxy, httpProxy, noProxy, strict, bind]

/-- The name of a variable. -/
def name : Variable → String
  | aioEnabled => "AIO_SANDBOX_ENABLED"
  | aioImage => "AIO_SANDBOX_IMAGE"
  | legacyImage => "SANDBOX_IMAGE"
  | legacyStem => "SANDBOX_NAME_PREFIX"
  | address => "SANDBOX_ADDRESS"
  | network => "SANDBOX_NETWORK"
  | ttlMinutes => "SANDBOX_TTL_MINUTES"
  | chromeArgs => "SANDBOX_CHROME_ARGS"
  | httpsProxy => "SANDBOX_HTTPS_PROXY"
  | httpProxy => "SANDBOX_HTTP_PROXY"
  | noProxy => "SANDBOX_NO_PROXY"
  | strict => "SANDBOX_READINESS_STRICT"
  | bind => "SANDBOX_ROUTER_BIND"

/-- The settings with the one of the variable at `value`. -/
def set (v : Variable) (value : String) (s : Settings) : Except VariableFault Settings :=
  match v with
  | aioEnabled => do
    let enabled ← truth v.name value
    return { s with aio := { s.aio with enabled } }
  | aioImage => .ok { s with aio := { s.aio with image := value } }
  | legacyImage => .ok { s with legacy := { s.legacy with image := value } }
  | legacyStem => .ok { s with legacy := { s.legacy with stem := value } }
  | address => .ok { s with sandboxAddress := some value }
  | network => .ok { s with sandboxNetwork := some value }
  | ttlMinutes => do
    let n ← minutes value
    return { s with legacy := { s.legacy with ttlMinutes := some n } }
  | chromeArgs => .ok { s with legacy := { s.legacy with chromeArgs := some value } }
  | httpsProxy => .ok { s with legacy := { s.legacy with httpsProxy := some value } }
  | httpProxy => .ok { s with legacy := { s.legacy with httpProxy := some value } }
  | noProxy => .ok { s with legacy := { s.legacy with noProxy := some value } }
  | strict => do
    let strict ← truth v.name value
    return { s with readiness := { s.readiness with strict } }
  | bind => .ok { s with bind := value }

end Variable

/-- The values of the variables that are set. -/
abbrev Environment := String → Option String

/-- The value of a variable that is set and not blank. -/
def Environment.value? (env : Environment) (v : Variable) : Option String :=
  (env v.name).filter (!Text.allBlank ·)

/-- Settings, and the names of the variables that changed them. -/
structure Overridden where
  settings : Settings
  overrides : List String
  deriving DecidableEq, Repr

/-- Applies the variables of a list in its order. On a fault the settings before it are kept. -/
def overrideBy (env : Environment) : List Variable → Settings → Settings × Option VariableFault
  | [], s => (s, none)
  | v :: vs, s =>
    match env.value? v with
    | none => overrideBy env vs s
    | some value =>
      match v.set value s with
      | .ok s => overrideBy env vs s
      | .error fault => (s, some fault)

/-- The names of the variables that are set and not blank. -/
def Environment.names (env : Environment) : List String :=
  (Variable.all.filter fun v => (env.value? v).isSome).map Variable.name

/-- Applies all variables. Their names are added when none of them is at fault. -/
def Overridden.override (env : Environment) (o : Overridden) :
    Overridden × Option VariableFault :=
  match overrideBy env Variable.all o.settings with
  | (settings, none) => (⟨settings, o.overrides ++ env.names⟩, none)
  | (settings, some fault) => (⟨settings, o.overrides⟩, some fault)

end Sandboxes.Settings
