import Sandboxes.Command.Grammar

/-!
# Help

How a command or a group is used, as its grammar says: first the usual form of a call, then what may
stand in it.
-/

namespace Sandboxes.Command

/-- The word for what a value must be. -/
def Kind.placeholder : Kind → String
  | text => "<text>"
  | path => "<path>"
  | variant => "<type>"
  | count => "<number>"

/-- The ways in which a flag can be written. -/
def Flag.spelling (f : Flag) : String :=
  let letter := match f.letter with
    | some c => "-" ++ String.singleton c ++ ", "
    | none => ""
  let value := match f.meaning with
    | .value kind => " " ++ kind.placeholder
    | _ => ""
  letter ++ "--" ++ f.name ++ value

/-- What follows the flags in a call. An operand that may be left out stands in brackets. -/
def Form.operandText (f : Form) : String :=
  let needed := (f.operands.take f.required).map Kind.placeholder
  let free := (f.operands.drop f.required).map fun kind => "[" ++ kind.placeholder ++ "]"
  Text.joined " " (needed ++ free ++ if f.words then ["<words>..."] else [])

/-- Lines below a title. -/
def listing (title : String) (entries : List String) : String :=
  "\n" ++ title ++ ":\n" ++ String.join (entries.map fun entry => "  " ++ entry ++ "\n")

/-- How something of a grammar is used, with its flags and members. -/
def Grammar.helpText {α : Type} (g : Grammar α) (shared : List Flag) (call : String) : String :=
  let usage (rest : String) := "Usage: " ++ call ++ " [FLAGS] " ++ rest ++ "\n"
  let known := (common shared).map Flag.spelling
  match g with
  | .command form _ =>
    usage form.operandText ++ listing "Flags" (form.flags.map Flag.spelling ++ known)
  | .group members =>
    usage "<command>" ++ listing "Commands" (members.map (·.1)) ++ listing "Flags" known

/-- How the commands of a path are used. -/
def helpText (path : List String) : String :=
  let call := Text.joined " " (programName :: path)
  ((grammar.member? path).getD grammar).helpText sharedFlags call

end Sandboxes.Command
