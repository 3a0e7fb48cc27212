import Sandboxes.Json.Basic

/-!
# Addresses of containers

A container that is only on networks of its own has no default address. It is reached at that of the
first network, by name, that gives it one.
-/

namespace Sandboxes.Container

/-- What is known of a container's networks: its default address, and its address on each network
by name. -/
structure Networks where
  address : Option String
  networks : List (String × Option String)
  deriving DecidableEq, Repr

namespace Networks

/-- An address that is no empty text. -/
def given (address : Option String) : Option String :=
  address.filter (· ≠ "")

/-- The one of two entries whose name comes first; the former where both have the same. -/
def earlier (a b : String × String) : String × String :=
  if b.1 < a.1 then b else a

/-- The entry whose name comes first. -/
def first? : List (String × String) → Option (String × String)
  | [] => none
  | e :: es => some (es.foldl earlier e)

/-- The networks that give an address. -/
def addressed (n : Networks) : List (String × String) :=
  n.networks.filterMap fun (name, address) => (given address).map (name, ·)

/-- The address that a container is reached at. -/
def reachable? (n : Networks) : Option String :=
  match given n.address with
  | some address => some address
  | none => (first? n.addressed).map (·.2)

/-! ### Reading -/

/-- A member that may be absent or null. -/
def member? {α : Type} (name : String) (f : Json → Option α) (j : Json) : Option (Option α) :=
  Json.optional? f (j.get name)

/-- The address in a description of a network. -/
def entry? (j : Json) : Option (Option String) :=
  if j.isObj then member? "IPAddress" Json.string? j else none

/-- Descriptions of networks by name. -/
def entries? (j : Json) : Option (List (String × Option String)) := do
  (← j.members?).mapM fun (name, network) => do return (name, ← entry? network)

/-- Reads the networks of a container from its inspection document. -/
def ofJson? (j : Json) : Option Networks := do
  if !j.isObj then none
  else
    match j.get "NetworkSettings" with
    | .null => return ⟨none, []⟩
    | settings =>
      if !settings.isObj then none
      else
        return {
          address := ← member? "IPAddress" Json.string? settings
          networks := (← member? "Networks" entries? settings).getD [] }

end Networks

end Sandboxes.Container
