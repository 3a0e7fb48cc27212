import Sandboxes.Number.Double

/-!
# JSON values

A tree of values. The members of an object are kept in the order in which they were written, with
repetitions; `settle` gives the value that free-form data has, where the last of several members of
one name counts and members are ordered by name.
-/

namespace Sandboxes

/-- A number of a JSON text: whole numbers of 64 bits are kept exactly. -/
inductive Number
  | int (i : Int)
  | float (x : Double)
  deriving DecidableEq, Repr

/-- A JSON value. -/
inductive Json
  | null
  | bool (b : Bool)
  | num (n : Number)
  | str (s : String)
  | arr (items : List Json)
  | obj (members : List (String × Json))
  deriving Repr, BEq, Inhabited

/-- Members of an object, or any other association of names. -/
abbrev Members := List (String × Json)

namespace Json

/-! ### Members -/

/-- The last member of that name. -/
def lookup (name : String) (members : Members) : Option Json :=
  (members.reverse.find? (·.1 == name)).map (·.2)

/-- The member of that name, of an object that has one. -/
def get? (name : String) : Json → Option Json
  | .obj members => lookup name members
  | _ => none

/-- The member of that name, or null. -/
def get (name : String) (j : Json) : Json :=
  (j.get? name).getD .null

/-- Puts a member among members ordered by name, unless there is one of its name. -/
def place (name : String) (value : Json) : Members → Members
  | [] => [(name, value)]
  | m :: ms =>
    if name < m.1 then (name, value) :: m :: ms
    else if name = m.1 then m :: ms
    else m :: place name value ms

mutual

/-- The value as free-form data: members ordered by name, the last of a name counting. -/
def settle : Json → Json
  | .arr items => .arr (settleItems items)
  | .obj members => .obj (settleMembers members)
  | .null => .null
  | .bool b => .bool b
  | .num n => .num n
  | .str s => .str s
termination_by structural j => j

/-- `settle` on every item. -/
def settleItems : List Json → List Json
  | [] => []
  | j :: js => settle j :: settleItems js
termination_by structural js => js

/-- `settle` on every member, and on their order. -/
def settleMembers : Members → Members
  | [] => []
  | m :: ms => place m.1 (settleMember m) (settleMembers ms)
termination_by structural ms => ms

/-- `settle` on the value of a member. -/
def settleMember : String × Json → Json
  | (_, j) => settle j
termination_by structural m => m

end

/-! ### Access by shape -/

/-- The text of a string. -/
def string? : Json → Option String
  | .str s => some s
  | _ => none

/-- The truth value of a boolean. -/
def bool? : Json → Option Bool
  | .bool b => some b
  | _ => none

/-- The whole number of a number without a fraction or exponent. -/
def int? : Json → Option Int
  | .num (.int i) => some i
  | _ => none

/-- The whole number of such a number below `bound`. -/
def below? (bound : Nat) (j : Json) : Option Nat :=
  match j.int? with
  | some (.ofNat n) => if n < bound then some n else none
  | _ => none

/-- A whole number of sixteen bits. -/
def uint16? (j : Json) : Option UInt16 :=
  (j.below? (2 ^ 16)).map UInt16.ofNat

/-- A whole number of 32 bits. -/
def uint32? (j : Json) : Option UInt32 :=
  (j.below? (2 ^ 32)).map UInt32.ofNat

/-- A whole number of 64 bits. -/
def uint64? (j : Json) : Option UInt64 :=
  (j.below? (2 ^ 64)).map UInt64.ofNat

/-- The items of an array. -/
def items? : Json → Option (List Json)
  | .arr items => some items
  | _ => none

/-- The members of an object. -/
def members? : Json → Option Members
  | .obj members => some members
  | _ => none

/-- Whether the value is an object. -/
def isObj : Json → Bool
  | .obj _ => true
  | _ => false

/-- A value that may be null, read by `f` when it is not. -/
def optional? {α : Type} (f : Json → Option α) : Json → Option (Option α)
  | .null => some none
  | j => (f j).map some

/-- A natural number. -/
def ofNat (n : Nat) : Json := .num (.int n)

/-- The texts of an array. -/
def ofStrings (texts : List String) : Json :=
  .arr (texts.map .str)

/-- A value that may be absent, which null stands for. -/
def ofOption {α : Type} (f : α → Json) : Option α → Json
  | none => .null
  | some a => f a

end Json

end Sandboxes
