import Sandboxes.Handle
import Sandboxes.Net.Ipv4
import Sandboxes.Recent

/-!
# Memory

What is remembered between operations: which handles are closed, the handles kept for each variant,
and the addresses of host names. It changes by single steps only, each of which happens at once.
-/

namespace Sandboxes

/-- What is remembered. -/
structure Memory where
  /-- How many handles have been made. -/
  made : Nat
  /-- The numbers of the handles that are closed. -/
  closed : List Nat
  /-- The handles that are kept of the legacy variant. -/
  legacy : Recent String Handle
  /-- The handles that are kept of the all-in-one variant. -/
  aio : Recent String Handle
  /-- The outcomes of look-ups by host name. -/
  addresses : Recent String (Option Ipv4)
  deriving Repr

namespace Memory

/-- A memory with nothing in it, with room for that many handles per variant and host names. -/
def empty (handles hosts : Nat) : Memory where
  made := 0
  closed := []
  legacy := .empty handles
  aio := .empty handles
  addresses := .empty hosts

/-- The handles that are kept of a variant. -/
def kept (m : Memory) : Variant → Recent String Handle
  | .legacy => m.legacy
  | .aio => m.aio

/-- The memory with other handles kept of a variant. -/
def setKept (m : Memory) (v : Variant) (handles : Recent String Handle) : Memory :=
  match v with
  | .legacy => { m with legacy := handles }
  | .aio => { m with aio := handles }

/-- A single step. -/
inductive Step
  /-- Takes a number for a new handle. -/
  | number
  /-- Asks whether a handle is closed. -/
  | isClosed (handle : Nat)
  /-- Closes a handle and tells whether it was closed before. -/
  | close (handle : Nat)
  /-- Looks for the handle that is kept for a name. -/
  | find (variant : Variant) (id : String)
  /-- Keeps a handle for a name. -/
  | keep (variant : Variant) (id : String) (handle : Handle)
  /-- Forgets the handle that is kept for a name. -/
  | forget (variant : Variant) (id : String)
  /-- Looks for the outcome of a look-up. -/
  | findAddress (host : String)
  /-- Keeps the outcome of a look-up. -/
  | keepAddress (host : String) (address : Option Ipv4)
  deriving Repr

namespace Step

/-- What a step tells. -/
abbrev Result : Step → Type
  | number => Nat
  | isClosed _ | close _ => Bool
  | find _ _ => Option Handle
  | keep _ _ _ | forget _ _ | keepAddress _ _ => Unit
  | findAddress _ => Option (Option Ipv4)

/-- What a step tells of a memory, and the memory after it. -/
def apply : (s : Step) → Memory → s.Result × Memory
  | number, m => (m.made, { m with made := m.made + 1 })
  | isClosed h, m => (decide (h ∈ m.closed), m)
  | close h, m => (decide (h ∈ m.closed), { m with closed := h :: m.closed })
  | find v id, m => ((m.kept v).find? id, m.setKept v ((m.kept v).touch id))
  | keep v id h, m => ((), m.setKept v ((m.kept v).insert id h))
  | forget v id, m => ((), m.setKept v ((m.kept v).erase id))
  | findAddress host, m =>
    (m.addresses.find? host, { m with addresses := m.addresses.touch host })
  | keepAddress host address, m =>
    ((), { m with addresses := m.addresses.insert host address })

end Step

end Memory

end Sandboxes
