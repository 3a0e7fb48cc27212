import Sandboxes.Text.Digits
import Sandboxes.Text.Pieces
import Sandboxes.Variant

/-!
# Arguments

Reading the arguments of a program along a grammar. A grammar is a tree of commands: a group leads on
by the next word, and at its leaves stand commands with flags and operands. Flags may stand before,
between and after operands; after `--`, and after the first of the words that a command takes for
itself, everything is an operand.
-/

namespace Sandboxes.Command

/-! ### Grammars -/

/-- What a value must be. -/
inductive Kind
  /-- Any text. -/
  | text
  /-- A path, which is not empty. -/
  | path
  /-- The tag of a variant. -/
  | variant
  /-- A whole number of 64 bits. -/
  | count
  deriving DecidableEq, Repr

/-- Whether a text is a value of that kind. -/
def Kind.accepts : Kind → String → Bool
  | text, _ => true
  | path, value => value ≠ ""
  | variant, value => (Variant.ofTag? value).isSome
  | count, value => (Text.readNat (2 ^ 64) value).isOk

/-- What a flag is for. -/
inductive Meaning
  /-- Asks for help. -/
  | help
  /-- Asks for the version. -/
  | version
  /-- Switches something on. -/
  | switch
  /-- Gives a value. -/
  | value (kind : Kind)
  deriving DecidableEq, Repr

/-- A flag, with its long name and perhaps a letter. -/
structure Flag where
  name : String
  letter : Option Char
  meaning : Meaning
  deriving DecidableEq, Repr

/-- What a command may be given. -/
structure Form where
  flags : List Flag
  operands : List Kind
  /-- How many of the operands must be given. -/
  required : Nat
  /-- Whether words follow after the operands, at least one. -/
  words : Bool
  deriving DecidableEq, Repr

/-- What a command was given. -/
structure Given where
  /-- Flags by name, with their values; that of a switch is empty. -/
  flags : List (String × String)
  operands : List String
  deriving DecidableEq, Repr

/-- The commands of a program, each with what is made of what it was given. -/
inductive Grammar (α : Type)
  | command (form : Form) (build : Given → Option α)
  | group (members : List (String × Grammar α))

/-! ### What was given -/

namespace Given

/-- Nothing. -/
def nothing : Given where
  flags := []
  operands := []

/-- The value of a flag. -/
def value? (g : Given) (name : String) : Option String :=
  g.flags.lookup name

/-- Whether a flag was given. -/
def has (g : Given) (name : String) : Bool :=
  (g.value? name).isSome

/-- The variant that a flag names. -/
def variant? (g : Given) (name : String) : Option Variant :=
  (g.value? name).bind Variant.ofTag?

/-- The number that a flag gives. -/
def count? (g : Given) (name : String) : Option UInt64 := do
  match Text.readNat (2 ^ 64) (← g.value? name) with
  | .ok n => some (.ofNat n)
  | .error _ => none

end Given

/-! ### Reading -/

/-- Why no command comes of the arguments. -/
inductive Ending
  /-- Help was asked for, with the commands of a path. -/
  | help (path : List String)
  /-- The version was asked for, within the commands of a path. -/
  | version (path : List String)
  /-- The arguments are not of the grammar. -/
  | misuse
  deriving DecidableEq, Repr

/-- Where reading stands. -/
structure Reading (α : Type) where
  /-- The words of the groups and the command so far. -/
  path : List String
  grammar : Grammar α
  given : Given
  /-- What was given to the groups on the way, the innermost first. -/
  outer : List Given
  /-- Whether everything that follows is an operand. -/
  literal : Bool

/-- The flags that every command knows: help, version and those of the program. -/
def common (shared : List Flag) : List Flag :=
  ⟨"help", some 'h', .help⟩ :: ⟨"version", some 'V', .version⟩ :: shared

namespace Reading

variable {α : Type}

/-- The flags that are known here. -/
def flags (r : Reading α) (shared : List Flag) : List Flag :=
  match r.grammar with
  | .command form _ => common shared ++ form.flags
  | .group _ => common shared

/-- Takes a value for a flag, which must not have been given before. -/
def give (r : Reading α) (f : Flag) (kind : Kind) (value : String) :
    Except Ending (Reading α) :=
  if r.given.has f.name || !kind.accepts value then .error .misuse
  else .ok { r with given := { r.given with flags := (f.name, value) :: r.given.flags } }

/-- Takes an operand, which there must be room for. -/
def takeOperand (r : Reading α) (value : String) : Except Ending (Reading α) :=
  let given := { r.given with operands := r.given.operands ++ [value] }
  match r.grammar with
  | .group _ => .error .misuse
  | .command form _ =>
    match form.operands[r.given.operands.length]? with
    | some kind => if kind.accepts value then .ok { r with given } else .error .misuse
    | none => if form.words then .ok { r with given, literal := true } else .error .misuse

/-- Takes a flag that came without a value. What is left may be a flag that awaits its value. -/
def takeFlag (r : Reading α) (f : Flag) : Except Ending (Reading α × Option Flag) := do
  match f.meaning with
  | .help => throw (.help r.path)
  | .version => throw (.version r.path)
  | .switch => return (← r.give f .text "", none)
  | .value _ => return (r, some f)

/-- Takes the value of a flag. -/
def takeValue (r : Reading α) (f : Flag) (value : String) : Except Ending (Reading α) :=
  match f.meaning with
  | .value kind => r.give f kind value
  | _ => .error .misuse

/-- Takes a flag by its long name, perhaps with a value behind an equals sign. -/
def takeLong (r : Reading α) (shared : List Flag) (text : List Char) :
    Except Ending (Reading α × Option Flag) := do
  let (name, value?) := match Text.splitFirst? '=' text with
    | some (name, value) => (name, some (String.ofList value))
    | none => (text, none)
  match (r.flags shared).find? (·.name.toList = name), value? with
  | none, _ => throw .misuse
  | some f, none => r.takeFlag f
  | some f, some value => return (← r.takeValue f value, none)

/-- Takes flags by their letters. The first that has a value takes what is left, with or without an
equals sign in front. -/
def takeLetters (shared : List Flag) :
    Reading α → List Char → Except Ending (Reading α × Option Flag)
  | r, [] => .ok (r, none)
  | r, c :: cs => do
    match (r.flags shared).find? (·.letter = some c) with
    | none => throw .misuse
    | some f =>
      let (r, awaiting) ← r.takeFlag f
      match awaiting, cs with
      | none, _ => takeLetters shared r cs
      | some f, [] => return (r, some f)
      | some f, '=' :: value => return (← r.takeValue f (String.ofList value), none)
      | some f, value => return (← r.takeValue f (String.ofList value), none)

/-- Goes on to a member of a group. -/
def enter (r : Reading α) (name : String) (grammar : Grammar α) : Reading α where
  path := r.path ++ [name]
  grammar := grammar
  given := .nothing
  outer := r.given :: r.outer
  literal := false

end Reading

/-- The word that asks for help with the commands whose words follow it. -/
def helpWord : String := "help"

/-- Whether words lead to a command or a group, or to the help of one. -/
def Grammar.leads {α : Type} : Grammar α → List String → Bool
  | _, [] => true
  | .command _ _, _ :: _ => false
  | .group members, word :: rest =>
    if word = helpWord then rest.isEmpty
    else
      match members.lookup word with
      | some grammar => grammar.leads rest
      | none => false

/-- The grammar that words lead to. -/
def Grammar.member? {α : Type} : Grammar α → List String → Option (Grammar α)
  | grammar, [] => some grammar
  | .command _ _, _ :: _ => none
  | .group members, word :: rest => (members.lookup word).bind (·.member? rest)

/-- Whether an argument looks like a flag. -/
def looksLikeFlag (arg : String) : Bool :=
  match arg.toList with
  | '-' :: _ :: _ => true
  | _ => false

namespace Reading

variable {α : Type}

/-- Whether everything is there that must be given. -/
def isComplete (r : Reading α) : Bool :=
  match r.grammar with
  | .group _ => false
  | .command form _ =>
    let least := if form.words then form.required + 1 else form.required
    decide (least ≤ r.given.operands.length)

/-- Takes an argument that may be a flag. -/
def takeArgument (r : Reading α) (shared : List Flag) (arg : String) :
    Except Ending (Reading α × Option Flag) :=
  match arg.toList with
  | ['-', '-'] => .ok ({ r with literal := true }, none)
  | '-' :: '-' :: long => r.takeLong shared long
  | '-' :: c :: letters => takeLetters shared r (c :: letters)
  | _ => return (← r.takeOperand arg, none)

/-- Reads the arguments that are left, the first of them as the value of a flag if one awaits it. -/
def run (shared : List Flag) : Reading α → (awaiting : Option Flag) → List String →
    Except Ending (Reading α)
  | r, none, [] => if r.isComplete then .ok r else .error .misuse
  | _, some _, [] => .error .misuse
  | r, some f, arg :: args =>
    if looksLikeFlag arg then .error .misuse
    else do run shared (← r.takeValue f arg) none args
  | r, none, arg :: args =>
    if r.literal then do run shared (← r.takeOperand arg) none args
    else
      match r.grammar with
      | .group members =>
        if arg = helpWord then
          .error (if r.grammar.leads args then .help (r.path ++ args.filter (· ≠ helpWord))
            else .misuse)
        else
          match members.lookup arg with
          | some grammar => run shared (r.enter arg grammar) none args
          | none => do
            let (r, awaiting) ← r.takeArgument shared arg
            run shared r awaiting args
      | .command _ _ => do
        let (r, awaiting) ← r.takeArgument shared arg
        run shared r awaiting args

/-- Reading before the first argument. -/
def start (g : Grammar α) : Reading α where
  path := []
  grammar := g
  given := .nothing
  outer := []
  literal := false

/-- The value of a flag that every command knows: the innermost one that was given, or else a usual
one. Wherever the flag was not given, the usual value must be of its kind. -/
def shared? (r : Reading α) (name : String) (kind : Kind) (usual : Option String) :
    Except Ending (Option String) :=
  let levels := r.given :: r.outer
  if levels.any (!·.has name) && usual.any (!kind.accepts ·) then .error .misuse
  else .ok ((levels.findSome? (·.value? name)).or usual)

/-- What is made of the arguments that were read. -/
def result (r : Reading α) : Except Ending α :=
  match r.grammar with
  | .group _ => .error .misuse
  | .command _ build =>
    match build r.given with
    | some a => .ok a
    | none => .error .misuse

end Reading

end Sandboxes.Command
