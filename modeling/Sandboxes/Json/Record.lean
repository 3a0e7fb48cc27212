import Sandboxes.Json.Basic

/-!
# Records in JSON

A record with named fields is written as an object or as an array of its fields in order. Members
of other names are ignored, even repeated ones; a field must not be given twice, and an array must
not be longer than the record.
-/

namespace Sandboxes.Json

/-- The values of all members of that name. -/
def valuesOf (name : String) (members : Members) : List Json :=
  (members.filter (·.1 == name)).map (·.2)

/-- The value of the field of that name: absent, given once, or none when given more often. -/
def field? (members : Members) (name : String) : Option (Option Json) :=
  match valuesOf name members with
  | [] => some none
  | [value] => some (some value)
  | _ => none

/-- The fields of a record, in the order of `names`, absent ones as `none`. -/
def fields? (names : List String) : Json → Option (List (Option Json))
  | .obj members => names.mapM (field? members)
  | .arr items =>
    if items.length ≤ names.length then
      some (items.map some ++ List.replicate (names.length - items.length) none)
    else none
  | _ => none

/-- A field read by `f`, or the value for an absent one. -/
def fieldOr {α : Type} (absent : α) (f : Json → Option α) : Option Json → Option α
  | none => some absent
  | some j => f j

/-- A field that must be given, read by `f`. -/
def needed {α : Type} (f : Json → Option α) : Option Json → Option α
  | none => none
  | some j => f j

end Sandboxes.Json
