import Sandboxes.Text.Pieces

/-!
# Words of shell commands

Words are joined to a command in such a way that a shell takes it apart into the same words: a word
with characters that mean something to a shell stands between single quotes, and a single quote
within it is written outside of them.
-/

namespace Sandboxes.Command.Word

/-- Characters that mean something to a shell. -/
def special : List Char :=
  ['\n', '\'', '|', '&', ';', '<', '>', '(', ')', '$', '\x60', '\\', '"', ' ', '\t', '*', '?', '[',
    '#', '~', '=', '%']

/-- Whether a word stands for itself. -/
def isPlain (word : List Char) : Bool :=
  !word.isEmpty && word.all (· ∉ special)

/-- A character between single quotes. -/
def quoteChar (c : Char) : List Char :=
  if c = '\'' then ['\'', '\\', '\'', '\''] else [c]

/-- A word as it is written in a command. -/
def quote (word : List Char) : List Char :=
  if isPlain word then word else ['\''] ++ word.flatMap quoteChar ++ ['\'']

/-- The command of some words. -/
def join (words : List String) : String :=
  Text.joined " " (words.map fun word => String.ofList (quote word.toList))

end Sandboxes.Command.Word
