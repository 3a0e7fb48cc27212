import Sandboxes.Program

/-!
# Resolving host names

Host names are looked up once and remembered, failures too. An address in its dotted form stands for
itself and is never looked up.
-/

namespace Sandboxes

/-- The address of a host. -/
def resolve (host : String) : Program (Option Ipv4) := do
  match Ipv4.ofText? host with
  | some address => return some address
  | none =>
    match ← Program.step (.findAddress host) with
    | some known => return known
    | none =>
      let found ← Program.query (.lookUp host)
      Program.step (.keepAddress host found)
      return found

/-- What stands for a host in URLs: its address, or the name itself where that has none. -/
def hostFor (host : String) : Program String := do
  match ← resolve host with
  | some address => return address.text
  | none => return host

end Sandboxes
