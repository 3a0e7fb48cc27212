/-!
# Pieces of a list

Taking a sequence apart at an element or a part of it: before and after its first or last
occurrence, into fields, and putting another part in its place.
-/

namespace Sandboxes.Text

variable {α : Type} [DecidableEq α]

/-- What stands before and after the first `a`. -/
def splitFirst? (a : α) : List α → Option (List α × List α)
  | [] => none
  | b :: bs =>
    if b = a then some ([], bs)
    else (splitFirst? a bs).map fun (before, after) => (b :: before, after)

/-- What stands before and after the last `a`. -/
def splitLast? (a : α) : List α → Option (List α × List α)
  | [] => none
  | b :: bs =>
    match splitLast? a bs with
    | some (before, after) => some (b :: before, after)
    | none => if b = a then some ([], bs) else none

/-- The fields between the separators. There is always one more than separators. -/
def fields (a : α) : List α → List (List α)
  | [] => [[]]
  | b :: bs =>
    match fields a bs with
    | [] => [[b]]
    | field :: rest => if b = a then [] :: field :: rest else (b :: field) :: rest

/-- What follows `front`, when the list starts with it. -/
def dropFront? : List α → List α → Option (List α)
  | [], bs => some bs
  | _ :: _, [] => none
  | a :: front, b :: bs => if a = b then dropFront? front bs else none

/-- Puts `new` in place of every occurrence of `old`, from the left. `skip` elements of an
occurrence are still to be passed over. -/
def replaceFrom (old new : List α) : Nat → List α → List α
  | _, [] => []
  | skip + 1, _ :: bs => replaceFrom old new skip bs
  | 0, b :: bs =>
    if old ≠ [] ∧ (dropFront? old (b :: bs)).isSome then
      new ++ replaceFrom old new (old.length - 1) bs
    else b :: replaceFrom old new 0 bs

/-- Puts `new` in place of every occurrence of `old` in a text. -/
def replaceAll (old new s : String) : String :=
  String.ofList (replaceFrom old.toList new.toList 0 s.toList)

/-- The texts joined with `sep` between them. -/
def joined (sep : String) : List String → String
  | [] => ""
  | [s] => s
  | s :: rest => s ++ sep ++ joined sep rest

end Sandboxes.Text
