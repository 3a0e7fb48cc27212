/-!
# Bounded memory by recency

A map that holds at most `capacity` keys. Its entries are kept in the order in which they were last
looked up or inserted, the latest first; inserting a new key into a full map drops the entry at the
end of that order.
-/

namespace Sandboxes

/-- A map of bounded size, its entries ordered by their last use. -/
structure Recent (κ α : Type) where
  capacity : Nat
  entries : List (κ × α)
  deriving Repr

namespace Recent

variable {κ α : Type} [DecidableEq κ]

/-- The empty map. It has room for one entry at least. -/
def empty (capacity : Nat) : Recent κ α :=
  ⟨max 1 capacity, []⟩

/-- The number of entries. -/
def size (m : Recent κ α) : Nat :=
  m.entries.length

/-- The keys, the last used one first. -/
def keys (m : Recent κ α) : List κ :=
  m.entries.map Prod.fst

/-- The value of a key. -/
def find? (m : Recent κ α) (k : κ) : Option α :=
  (m.entries.find? (·.1 = k)).map Prod.snd

/-- Entries other than that of `k`, in their order. -/
def others (m : Recent κ α) (k : κ) : List (κ × α) :=
  m.entries.filter (·.1 ≠ k)

/-- The map after a look-up of `k`, which becomes the last used key if it is present. -/
def touch (m : Recent κ α) (k : κ) : Recent κ α :=
  match m.find? k with
  | some a => { m with entries := (k, a) :: m.others k }
  | none => m

/-- The map with `k` as the last used key, at `a`. -/
def insert (m : Recent κ α) (k : κ) (a : α) : Recent κ α :=
  { m with entries := ((k, a) :: m.others k).take m.capacity }

/-- The map without `k`. -/
def erase (m : Recent κ α) (k : κ) : Recent κ α :=
  { m with entries := m.others k }

end Recent

end Sandboxes
