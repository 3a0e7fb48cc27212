import Sandboxes.Proofs.Program.Runs
import Sandboxes.Proofs.Recent
import Sandboxes.Resolver

/-!
# Addresses that are remembered

Host names are resolved one after the other. What is remembered by then is read off the past: the
names that were last resolved, as many as there is room for, each with what its latest look-up found.
Addresses in their dotted form leave no trace.
-/

namespace Sandboxes

open Program

/-! ### Single resolutions -/

variable {host : String} {m m' : Memory} {log : Log} {answer : Option Ipv4}

lemma runs_resolve_literal {address : Ipv4} (literal : Ipv4.ofText? host = some address) :
    (resolve host).Runs m log answer m' ↔ log = [] ∧ answer = some address ∧ m' = m := by
  simp [resolve, literal]

lemma runs_resolve_known {found : Option Ipv4} (named : Ipv4.ofText? host = none)
    (known : m.addresses.find? host = some found) :
    (resolve host).Runs m log answer m' ↔ log = [] ∧ answer = found ∧
      m' = { m with addresses := m.addresses.touch host } := by
  simp only [resolve, named, runs_bind, runs_step, Memory.Step.apply, known]
  constructor
  · rintro ⟨_, _, _, _, ⟨rfl, rfl, rfl⟩, run, rfl⟩
    simpa using run
  · rintro ⟨rfl, rfl, rfl⟩
    exact ⟨[], _, _, [], ⟨rfl, rfl, rfl⟩, by simp, rfl⟩

lemma of_runs_resolve_new (named : Ipv4.ofText? host = none)
    (unknown : m.addresses.find? host = none) (run : (resolve host).Runs m log answer m') :
    log = [⟨.lookUp host, answer⟩] ∧
      m' = { m with addresses := m.addresses.insert host answer } := by
  simp only [resolve, named] at run
  obtain ⟨_, known, _, _, hfind, hmiss, rfl⟩ := runs_bind.mp run
  obtain ⟨rfl, rfl, rfl⟩ := runs_step.mp hfind
  simp only [Memory.Step.apply, unknown, Recent.touch_of_find?_eq_none unknown] at hmiss
  obtain ⟨_, found, _, _, hlook, hrest, rfl⟩ := runs_bind.mp hmiss
  obtain ⟨rfl, rfl⟩ := runs_query.mp hlook
  obtain ⟨_, _, _, _, hkeep, hend, rfl⟩ := runs_bind.mp hrest
  obtain ⟨rfl, -, rfl⟩ := runs_step.mp hkeep
  obtain ⟨rfl, rfl, rfl⟩ := runs_pure.mp hend
  exact ⟨rfl, rfl⟩

/-! ### One after the other -/

/-- A host that was resolved, what was exchanged and what came of it. -/
structure Resolution where
  host : String
  log : Log
  answer : Option Ipv4

namespace Resolution

/-- The host, unless it is an address in its dotted form. -/
def name? (r : Resolution) : Option String :=
  match Ipv4.ofText? r.host with
  | some _ => none
  | none => some r.host

/-- What a look-up of the host found. -/
def found? (host : String) (r : Resolution) : Option (Option Ipv4) :=
  r.log.findSome? fun
    | ⟨.lookUp name, found⟩ => if name = host then some found else none
    | _ => none

end Resolution

/-- The distinct names of resolutions with the latest first, in the order of their last one. -/
def resolvedNames (rs : List Resolution) : List String :=
  (rs.filterMap Resolution.name?).eraseDups

/-- What the latest look-up of the host found. -/
def latestFound? (host : String) (rs : List Resolution) : Option (Option Ipv4) :=
  rs.findSome? (Resolution.found? host)

/-- Resolutions one after the other, the latest first, and the memory after them. -/
inductive Resolves (start : Memory) : List Resolution → Memory → Prop
  | start : Resolves start [] start
  | resolve {rs : List Resolution} {m m' : Memory} {host : String} {log : Log}
      {answer : Option Ipv4} (before : Resolves start rs m)
      (run : (resolve host).Runs m log answer m') : Resolves start (⟨host, log, answer⟩ :: rs) m'

variable {rs : List Resolution}

lemma nodup_resolvedNames : (resolvedNames rs).Nodup :=
  nodup_eraseDups _

lemma resolvedNames_literal {address : Ipv4} (literal : Ipv4.ofText? host = some address) :
    resolvedNames (⟨host, log, answer⟩ :: rs) = resolvedNames rs := by
  simp [resolvedNames, Resolution.name?, literal]

lemma resolvedNames_named (named : Ipv4.ofText? host = none) :
    resolvedNames (⟨host, log, answer⟩ :: rs) = used host (resolvedNames rs) := by
  simp only [resolvedNames, Resolution.name?, named, List.filterMap_cons, eraseDups_cons_eq_used]

lemma latestFound?_silent {name : String} :
    latestFound? name (⟨host, [], answer⟩ :: rs) = latestFound? name rs := by
  rw [latestFound?, List.findSome?_cons]
  rfl

lemma latestFound?_self :
    latestFound? host (⟨host, [⟨.lookUp host, answer⟩], answer⟩ :: rs) = some answer := by
  simp [latestFound?, Resolution.found?]

lemma latestFound?_of_ne {name : String} (ne : name ≠ host) :
    latestFound? name (⟨host, [⟨.lookUp host, answer⟩], answer⟩ :: rs) = latestFound? name rs := by
  simp [latestFound?, Resolution.found?, ne.symm]

/-- The memory holds the names that were last resolved, with room for so many, and what was found
last. -/
structure Addresses (room : Nat) (rs : List Resolution) (m : Memory) : Prop where
  valid : m.addresses.Valid
  capacity : m.addresses.capacity = room
  keys : m.addresses.keys = (resolvedNames rs).take room
  entries : ∀ x ∈ m.addresses.entries, latestFound? x.1 rs = some x.2

variable {room : Nat}

lemma Addresses.known (inv : Addresses room rs m) {found : Option Ipv4}
    (named : Ipv4.ofText? host = none) (known : m.addresses.find? host = some found) :
    Addresses room (⟨host, [], answer⟩ :: rs)
      { m with addresses := m.addresses.touch host } where
  valid := inv.valid.touch
  capacity := by simpa using inv.capacity
  keys := by
    have fits : (used host m.addresses.keys).length ≤ room := by
      have le := (inv.valid.touch (k := host)).size_le
      rwa [Recent.size_eq, Recent.keys_touch known, Recent.capacity_touch, inv.capacity] at le
    rw [Recent.keys_touch known, resolvedNames_named named, ← take_used_take nodup_resolvedNames,
      ← inv.keys, List.take_of_length_le fits]
  entries x hx := by
    rw [latestFound?_silent]
    exact inv.entries x (Recent.mem_entries_touch hx)

lemma Addresses.new (inv : Addresses room rs m) (named : Ipv4.ofText? host = none) :
    Addresses room (⟨host, [⟨.lookUp host, answer⟩], answer⟩ :: rs)
      { m with addresses := m.addresses.insert host answer } where
  valid := inv.valid.insert
  capacity := inv.capacity
  keys := by
    rw [Recent.keys_insert, inv.capacity, inv.keys, resolvedNames_named named]
    exact take_used_take nodup_resolvedNames
  entries x hx := by
    rcases List.mem_cons.mp (List.mem_of_mem_take hx) with rfl | hx
    · exact latestFound?_self
    · obtain ⟨hx, ne⟩ := Recent.mem_others.mp hx
      rw [latestFound?_of_ne ne]
      exact inv.entries x hx

/-- What a resolution does, by what was resolved before. -/
lemma Addresses.answered (inv : Addresses room rs m) (named : Ipv4.ofText? host = none)
    (run : (resolve host).Runs m log answer m') :
    (log = [] ∧ host ∈ (resolvedNames rs).take room ∨
      log = [⟨.lookUp host, answer⟩] ∧ host ∉ (resolvedNames rs).take room) ∧
    latestFound? host (⟨host, log, answer⟩ :: rs) = some answer ∧
    Addresses room (⟨host, log, answer⟩ :: rs) m' := by
  cases hf : m.addresses.find? host with
  | some found =>
    obtain ⟨rfl, rfl, rfl⟩ := (runs_resolve_known named hf).mp run
    have mem := Recent.mem_entries_of_find? hf
    refine ⟨.inl ⟨rfl, ?_⟩, ?_, inv.known named hf⟩
    · rw [← inv.keys]
      exact List.mem_map_of_mem mem
    · rw [latestFound?_silent]
      exact inv.entries _ mem
  | none =>
    obtain ⟨rfl, rfl⟩ := of_runs_resolve_new named hf run
    refine ⟨.inr ⟨rfl, ?_⟩, latestFound?_self, inv.new named⟩
    rw [← inv.keys]
    exact Recent.find?_eq_none.mp hf

lemma addresses_of_resolves {handles capacity : Nat} (run : Resolves (.empty handles capacity) rs m) :
    Addresses (max 1 capacity) rs m := by
  induction run with
  | start =>
    refine ⟨Recent.valid_empty capacity, rfl, ?_, ?_⟩
    · simp [resolvedNames, Memory.empty, Recent.empty, Recent.keys]
    · simp [Memory.empty, Recent.empty]
  | @resolve rs m m' host log answer _ run ih =>
    cases literal : Ipv4.ofText? host with
    | some address =>
      obtain ⟨rfl, rfl, rfl⟩ := (runs_resolve_literal literal).mp run
      refine ⟨ih.valid, ih.capacity, ?_, fun x hx => ?_⟩
      · rw [resolvedNames_literal literal]
        exact ih.keys
      · rw [latestFound?_silent]
        exact ih.entries x hx
    | none => exact (ih.answered literal run).2.2

/-- After host names were resolved from an empty memory, the names that were last resolved are
remembered, `capacity` of them or one, the last one first, each with what its latest look-up found. An
address in its dotted form then stands for itself and changes nothing. Any other host is looked up
exactly if it is not among those names, and its address is what its latest look-up finds, this one
included. -/
theorem lookUps_of_resolves {handles capacity : Nat}
    (run : Resolves (.empty handles capacity) rs m) :
    let recent := (resolvedNames rs).take (max 1 capacity)
    m.addresses.keys = recent ∧
    (∀ name found, (name, found) ∈ m.addresses.entries → latestFound? name rs = some found) ∧
    ∀ host log answer m', (resolve host).Runs m log answer m' →
      match Ipv4.ofText? host with
      | some address => log = [] ∧ answer = some address ∧ m' = m
      | none =>
        (log = [] ∧ host ∈ recent ∨ log = [⟨.lookUp host, answer⟩] ∧ host ∉ recent) ∧
          latestFound? host (⟨host, log, answer⟩ :: rs) = some answer := by
  intro recent
  have inv := addresses_of_resolves run
  refine ⟨inv.keys, fun name found hx => inv.entries _ hx, fun host log answer m' next => ?_⟩
  split
  · next address literal => exact (runs_resolve_literal literal).mp next
  · next named =>
    obtain ⟨asked, latest, -⟩ := inv.answered named next
    exact ⟨asked, latest⟩

/-- With room for one name, a name that was not found is not looked up again. -/
theorem lookUps_of_resolves_again :
    ∃ log m, (resolve "db").Runs (.empty 4 0) log none m ∧
      ∀ log answer m', (resolve "db").Runs m log answer m' → log = [] ∧ answer = none := by
  have named : Ipv4.ofText? "db" = none := by decide
  have run : (resolve "db").Runs (.empty 4 0) [⟨.lookUp "db", none⟩] none _ :=
    runs_answering (fun _ _ => default) (resolve "db") (.empty 4 0)
  refine ⟨_, _, run, fun log answer m' again => ?_⟩
  obtain ⟨-, -, next⟩ := lookUps_of_resolves (.resolve .start run)
  have next := next "db" log answer m' again
  simp only [named] at next
  obtain ⟨⟨rfl, -⟩ | ⟨-, unknown⟩, latest⟩ := next
  · rw [latestFound?_silent, latestFound?_self] at latest
    exact ⟨rfl, (Option.some.inj latest).symm⟩
  · refine absurd ?_ unknown
    simp [resolvedNames, Resolution.name?, named, List.eraseDups_cons]

end Sandboxes
