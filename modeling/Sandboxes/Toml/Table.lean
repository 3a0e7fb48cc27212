import Sandboxes.Json.Basic

/-!
# Tables of TOML

The tables of a TOML document while it is read. A table knows whether a header or an assignment of
its own has defined it, or only names below it, and whether dotted names have: a table must not be
defined twice, and headers and dotted names must not both add entries to one.
-/

namespace Sandboxes.Toml

/-- An entry of a table. -/
inductive Node
  /-- A value, which no header or dotted name can reach into. -/
  | leaf (value : Json)
  | table (implicit dotted : Bool) (entries : List (String × Node))
  /-- An array of tables, the last one first. -/
  | tables (items : List (List (String × Node)))
  deriving Repr, Inhabited

/-- A table of a document. -/
structure Table where
  implicit : Bool
  dotted : Bool
  entries : List (String × Node)
  deriving Repr, Inhabited

namespace Table

/-- A table defined by its header, or the whole document. -/
def fresh : Table := ⟨false, false, []⟩

/-- The entry of a name. -/
def get? (t : Table) (name : String) : Option Node :=
  t.entries.lookup name

/-- The table with a new entry in place of that of its name, if there is one. -/
def set (t : Table) (name : String) (n : Node) : Table :=
  { t with entries := (t.entries.filter (·.1 != name)) ++ [(name, n)] }

/-- The table as an entry. -/
def node (t : Table) : Node :=
  .table t.implicit t.dotted t.entries

/-- Changes the table that a path leads to. Missing tables on the way are made; `dotted` tells that
the path is a dotted name, which must not lead into a table that was defined otherwise. -/
def change (dotted : Bool) : (path : List String) → (Table → Option Table) → Table → Option Table
  | [], f, t => f t
  | name :: path, f, t =>
    match t.get? name with
    | none => do
      let child ← change dotted path f ⟨true, dotted, []⟩
      return t.set name child.node
    | some (.leaf _) => none
    | some (.table implicit isDotted entries) =>
      if dotted && !implicit then none
      else do
        let child ← change dotted path f ⟨implicit, isDotted, entries⟩
        return t.set name child.node
    | some (.tables []) => none
    | some (.tables (last :: items)) => do
      let child ← change dotted path f ⟨false, false, last⟩
      return t.set name (.tables (child.entries :: items))

/-- Adds an entry under a dotted name; `path` holds its parts but the last. -/
def assign (path : List String) (name : String) (value : Json) (t : Table) : Option Table :=
  t.change true path fun table =>
    if table.dotted == path.isEmpty then none
    else match table.get? name with
      | none => some (table.set name (.leaf value))
      | some _ => none

/-- Opens the table that a header names: it must be new, or known only from names below it. -/
def open? (path : List String) (name : String) (t : Table) : Option Table :=
  t.change false path fun parent =>
    match parent.get? name with
    | none => some (parent.set name fresh.node)
    | some (.table true false entries) => some (parent.set name (.table false false entries))
    | some _ => none

/-- Opens a new element of the array of tables that a header names. -/
def push? (path : List String) (name : String) (t : Table) : Option Table :=
  t.change false path fun parent =>
    match parent.get? name with
    | none => some (parent.set name (.tables [[]]))
    | some (.tables items) => some (parent.set name (.tables ([] :: items)))
    | some _ => none

end Table

mutual

/-- The value of an entry. -/
def Node.value : Node → Json
  | .leaf value => value
  | .table _ _ entries => .obj (entryValues entries)
  | .tables items => .arr (itemValues items).reverse
termination_by structural n => n

/-- The values of entries. -/
def entryValues : List (String × Node) → Members
  | [] => []
  | e :: es => entryValue e :: entryValues es
termination_by structural es => es

/-- The value of one entry with its name. -/
def entryValue : String × Node → String × Json
  | (name, n) => (name, n.value)
termination_by structural e => e

/-- The values of the elements of an array of tables. -/
def itemValues : List (List (String × Node)) → List Json
  | [] => []
  | entries :: items => .obj (entryValues entries) :: itemValues items
termination_by structural items => items

end

/-- The value of a table. -/
def Table.value (t : Table) : Json :=
  .obj (entryValues t.entries)

end Sandboxes.Toml
