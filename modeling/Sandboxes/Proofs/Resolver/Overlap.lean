import Mathlib.Data.List.Induction
import Sandboxes.Proofs.Program.Interleaving
import Sandboxes.Proofs.Recent
import Sandboxes.Resolver

/-!
# Resolving at the same time

Any number of host names are resolved at the same time on one memory, which is not locked while a host
is looked up. A host may thus be remembered, used, dropped and remembered again by others between the
look into the memory and the answer of the look-up. `addresses_of_reaches` says what is remembered and
what is answered nevertheless.
-/

namespace Sandboxes.Resolver

open Program

/-! ### What is left of a resolution -/

/-- What is left once a host was looked up. -/
def afterLookUp (host : String) (found : Option Ipv4) : Program (Option Ipv4) :=
  .remember (.keepAddress host found) fun _ => .done found

/-- What is left once the memory was asked for a host. -/
def afterFind (host : String) : Option (Option Ipv4) → Program (Option Ipv4)
  | some known => .done known
  | none => .ask (.lookUp host) (afterLookUp host)

variable {host other : String} {answer : Option Ipv4} {address : Ipv4}

lemma resolve_literal (literal : Ipv4.ofText? host = some address) :
    resolve host = .done (some address) := by
  simp only [resolve, literal]
  rfl

lemma resolve_named (named : Ipv4.ofText? host = none) :
    resolve host = .remember (.findAddress host) (afterFind host) := by
  simp only [resolve, named]
  refine congrArg (Program.remember _) (funext fun known => ?_)
  cases known <;> rfl

/-! ### What happened to a host -/

section History

variable (events : List (Event String))

/-- Some look-up of the host had that answer. -/
def LookedUp (host : String) (answer : Option Ipv4) : Prop :=
  ∃ i, .asks i ⟨.lookUp host, answer⟩ ∈ events

/-- The host that is looked for in the memory or put into it. -/
def usedHost? : Event String → Option String
  | .remembers _ (.findAddress host) | .remembers _ (.keepAddress host _) => some host
  | _ => none

/-- The hosts that were used, the last used one first. -/
def usedHosts : List String :=
  (events.reverse.filterMap usedHost?).eraseDups

/-- The one host was used after the last use of the other. -/
def UsedAfter (host other : String) : Prop :=
  ∃ past later, events = past ++ later ∧ (∃ e ∈ later, usedHost? e = some host) ∧
    ∀ e ∈ later, usedHost? e ≠ some other

end History

variable {events : List (Event String)} {e : Event String}

lemma LookedUp.append (h : LookedUp events host answer) (later : List (Event String)) :
    LookedUp (events ++ later) host answer :=
  h.imp fun _ mem => List.mem_append_left later mem

lemma lookedUp_snoc (i : Nat) : LookedUp (events ++ [.asks i ⟨.lookUp host, answer⟩]) host answer :=
  ⟨i, List.mem_append_right _ (List.mem_singleton_self _)⟩

lemma usedHosts_snoc_of_none (h : usedHost? e = none) : usedHosts (events ++ [e]) = usedHosts events := by
  simp [usedHosts, h]

lemma usedHosts_snoc_of_some (h : usedHost? e = some host) :
    usedHosts (events ++ [e]) = used host (usedHosts events) := by
  rw [usedHosts, usedHosts, List.reverse_append, List.reverse_singleton, List.singleton_append,
    List.filterMap_cons_some h, eraseDups_cons_eq_used]

lemma UsedAfter.snoc (h : UsedAfter events host other) (unused : usedHost? e ≠ some other) :
    UsedAfter (events ++ [e]) host other := by
  obtain ⟨past, later, rfl, ⟨e', mem, uses⟩, none⟩ := h
  refine ⟨past, later ++ [e], List.append_assoc .., ⟨e', List.mem_append_left _ mem, uses⟩, ?_⟩
  intro e'' mem
  rcases List.mem_append.mp mem with mem | mem
  · exact none e'' mem
  · cases List.mem_singleton.mp mem
    exact unused

/-- What comes first among the hosts that were used was used later. -/
lemma usedAfter_of_sublist (h : [host, other].Sublist (usedHosts events)) :
    UsedAfter events host other := by
  induction events using List.reverseRecOn with
  | nil => cases h
  | append_singleton events e ih =>
    cases he : usedHost? e with
    | none =>
      rw [usedHosts_snoc_of_none he] at h
      exact (ih h).snoc (by simp [he])
    | some last =>
      rw [usedHosts_snoc_of_some he] at h
      cases h with
      | cons _ h =>
        have ne : other ≠ last := by simpa using (List.mem_filter.mp (h.subset (by simp))).2
        exact (ih (h.trans List.filter_sublist)).snoc (by simpa [he] using ne.symm)
      | cons_cons _ h =>
        have ne : other ≠ host := by simpa using (List.mem_filter.mp (h.subset (by simp))).2
        exact ⟨events, [e], rfl, ⟨e, by simp, he⟩, by simpa [he] using ne.symm⟩

/-! ### Every interleaving -/

/-- How far a resolution is. -/
inductive Resolving (events : List (Event String)) (host : String) : Program (Option Ipv4) → Prop
  | literal {address : Ipv4} (literal : Ipv4.ofText? host = some address) :
      Resolving events host (.done (some address))
  | finding (named : Ipv4.ofText? host = none) :
      Resolving events host (.remember (.findAddress host) (afterFind host))
  | asking (named : Ipv4.ofText? host = none) :
      Resolving events host (.ask (.lookUp host) (afterLookUp host))
  | keeping {answer : Option Ipv4} (named : Ipv4.ofText? host = none)
      (found : LookedUp events host answer) : Resolving events host (afterLookUp host answer)
  | done {answer : Option Ipv4} (named : Ipv4.ofText? host = none)
      (found : LookedUp events host answer) : Resolving events host (.done answer)

/-- What holds whenever some events happened, with room for so many hosts. -/
structure Overlapping (room : Nat) (events : List (Event String)) (s : System String (Option Ipv4)) :
    Prop where
  underway : ∀ (i : Nat) t, s.threads[i]? = some t → Resolving events t.job t.rest
  valid : s.memory.addresses.Valid
  capacity : s.memory.addresses.capacity = room
  order : s.memory.addresses.keys.Sublist (usedHosts events)
  entries : ∀ x ∈ s.memory.addresses.entries,
    Ipv4.ofText? x.1 = none ∧ LookedUp events x.1 x.2

variable {room : Nat} {s s' : System String (Option Ipv4)} {rest : Program (Option Ipv4)} {m : Memory}

lemma Resolving.append (h : Resolving events host rest) (later : List (Event String)) :
    Resolving (events ++ later) host rest := by
  cases h with
  | literal literal => exact .literal literal
  | finding named => exact .finding named
  | asking named => exact .asking named
  | keeping named found => exact .keeping named (found.append later)
  | done named found => exact .done named (found.append later)

lemma resolving_start : Resolving events host (resolve host) := by
  cases literal : Ipv4.ofText? host with
  | some address =>
    rw [resolve_literal literal]
    exact .literal literal
  | none =>
    rw [resolve_named literal]
    exact .finding literal

lemma Resolving.ask {q : Query} {next : q.Reply → Program (Option Ipv4)}
    (h : Resolving events host (.ask q next)) (i : Nat) (r : q.Reply) :
    Resolving (events ++ [.asks i ⟨q, r⟩]) host (next r) := by
  cases h with
  | asking named => exact .keeping named (lookedUp_snoc i)

/-- A thread takes a step, on addresses that were all looked up. -/
lemma Resolving.remember {step : Memory.Step} {next : step.Result → Program (Option Ipv4)}
    (h : Resolving events host (.remember step next))
    (entries : ∀ x ∈ m.addresses.entries, Ipv4.ofText? x.1 = none ∧ LookedUp events x.1 x.2) :
    Resolving events host (next (step.apply m).1) := by
  cases h with
  | finding named =>
    change Resolving events host (afterFind host (m.addresses.find? host))
    cases hf : m.addresses.find? host with
    | none => exact .asking named
    | some known => exact .done named (entries _ (Recent.mem_entries_of_find? hf)).2
  | keeping named found => exact .done named found

/-- The only steps of a thread are to find the address of its host, and to keep an address that was
looked up. -/
lemma Resolving.step_cases {step : Memory.Step} {next : step.Result → Program (Option Ipv4)}
    (h : Resolving events host (.remember step next)) :
    step = .findAddress host ∨ Ipv4.ofText? host = none ∧
      ∃ answer, step = .keepAddress host answer ∧ LookedUp events host answer := by
  cases h with
  | finding named => exact .inl rfl
  | keeping named found => exact .inr ⟨named, _, rfl, found⟩

/-- An event that leaves the addresses alone. -/
lemma Overlapping.same (inv : Overlapping room events s)
    (same : s'.memory.addresses = s.memory.addresses) (unused : usedHost? e = none)
    (underway : ∀ (i : Nat) t, s'.threads[i]? = some t → Resolving (events ++ [e]) t.job t.rest) :
    Overlapping room (events ++ [e]) s' where
  underway := underway
  valid := by
    rw [same]
    exact inv.valid
  capacity := by rw [same, inv.capacity]
  order := by
    rw [same, usedHosts_snoc_of_none unused]
    exact inv.order
  entries x hx := by
    rw [same] at hx
    exact (inv.entries x hx).imp_right (·.append [e])

/-- A host is looked for in the memory. -/
lemma Overlapping.find (inv : Overlapping room events s)
    (touched : s'.memory.addresses = s.memory.addresses.touch host) (uses : usedHost? e = some host)
    (underway : ∀ (i : Nat) t, s'.threads[i]? = some t → Resolving (events ++ [e]) t.job t.rest) :
    Overlapping room (events ++ [e]) s' where
  underway := underway
  valid := by
    rw [touched]
    exact inv.valid.touch
  capacity := by rw [touched, Recent.capacity_touch, inv.capacity]
  order := by
    rw [touched, usedHosts_snoc_of_some uses]
    cases hf : s.memory.addresses.find? host with
    | some known =>
      rw [Recent.keys_touch hf]
      exact sublist_used inv.order
    | none =>
      -- a host that is not there does not get ahead of those that are
      have absent : s.memory.addresses.keys.filter (· ≠ host) = s.memory.addresses.keys := by
        refine List.filter_eq_self.mpr fun k hk => ?_
        have ne : k ≠ host := fun h => Recent.find?_eq_none.mp hf (h ▸ hk)
        simpa using ne
      rw [Recent.touch_of_find?_eq_none hf, ← absent]
      exact (inv.order.filter _).cons host
  entries x hx := by
    rw [touched] at hx
    exact (inv.entries x (Recent.mem_entries_touch hx)).imp_right (·.append [e])

/-- The answer of a look-up is put into the memory. -/
lemma Overlapping.keep (inv : Overlapping room events s) (named : Ipv4.ofText? host = none)
    (found : LookedUp events host answer)
    (inserted : s'.memory.addresses = s.memory.addresses.insert host answer)
    (uses : usedHost? e = some host)
    (underway : ∀ (i : Nat) t, s'.threads[i]? = some t → Resolving (events ++ [e]) t.job t.rest) :
    Overlapping room (events ++ [e]) s' where
  underway := underway
  valid := by
    rw [inserted]
    exact inv.valid.insert
  capacity := by rw [inserted, Recent.capacity_insert, inv.capacity]
  order := by
    rw [inserted, usedHosts_snoc_of_some uses, Recent.keys_insert]
    exact (List.take_sublist _ _).trans (sublist_used inv.order)
  entries x hx := by
    rw [inserted] at hx
    rcases Recent.mem_entries_insert hx with rfl | hx
    · exact ⟨named, found.append [e]⟩
    · exact (inv.entries x hx).imp_right (·.append [e])

lemma Overlapping.move (inv : Overlapping room events s) (move : Moves resolve s e s') :
    Overlapping room (events ++ [e]) s' := by
  have underway : ∀ (i : Nat) t, s'.threads[i]? = some t → Resolving (events ++ [e]) t.job t.rest := by
    intro i t ht
    obtain ⟨job, rest⟩ := t
    obtain old | ⟨-, -, hrest⟩ | ⟨q, next, r, at_i, rfl, hrest⟩ | ⟨step, next, at_i, rfl, hrest⟩ :=
      move.thread_cases ht
    · exact (inv.underway i _ old).append [e]
    · obtain rfl : rest = resolve job := hrest
      exact resolving_start
    · cases hrest
      exact (inv.underway i _ at_i).ask i r
    · cases hrest
      exact ((inv.underway i _ at_i).remember inv.entries).append _
  cases move with
  | start job => exact inv.same rfl rfl underway
  | ask at_i r => exact inv.same rfl rfl underway
  | @remember m ts k job step next at_k =>
    have resolving : Resolving events job (.remember step next) := inv.underway k _ at_k
    obtain rfl | ⟨named, answer, rfl, found⟩ := resolving.step_cases
    · exact inv.find rfl rfl underway
    · exact inv.keep named found rfl rfl underway

lemma overlapping_of_reaches {handles capacity : Nat}
    (run : Reaches resolve ⟨.empty handles capacity, []⟩ events s) :
    Overlapping (max 1 capacity) events s := by
  induction run with
  | refl =>
    refine ⟨?_, Recent.valid_empty capacity, rfl, List.nil_sublist _, ?_⟩
    · simp
    · simp [Memory.empty, Recent.empty]
  | snoc _ move ih => exact ih.move move

/-! ### What is dropped -/

/-- The last of the entries is the one whose host was not used for the longest time. -/
lemma Overlapping.usedAfter_last (inv : Overlapping room events s)
    {stay : List (String × Option Ipv4)} {dropped : String × Option Ipv4}
    (entries : s.memory.addresses.entries = stay ++ [dropped]) :
    ∀ x ∈ stay, UsedAfter events x.1 dropped.1 := by
  intro x hx
  refine usedAfter_of_sublist (List.Sublist.trans ?_ inv.order)
  rw [Recent.keys, entries, List.map_append, List.map_singleton]
  exact (List.singleton_sublist.mpr (List.mem_map_of_mem hx)).append (List.Sublist.refl _)

/-- Keeping an address drops nothing if its host is there already or there is room, and otherwise the
entry whose host was not used for the longest time. -/
lemma Overlapping.insert (inv : Overlapping room events s) (host : String) (answer : Option Ipv4) :
    let kept := s.memory.addresses
    if host ∈ kept.keys ∨ kept.size < room then
      (kept.insert host answer).entries = (host, answer) :: kept.others host
    else ∃ stay dropped, kept.entries = stay ++ [dropped] ∧
      (kept.insert host answer).entries = (host, answer) :: stay ∧
      ∀ x ∈ stay, UsedAfter events x.1 dropped.1 := by
  intro kept
  have inserted := fun new => inv.valid.entries_insert (k := host) (a := answer) new
  rw [inv.capacity] at inserted
  by_cases known : host ∈ kept.keys
  · rw [if_pos (.inl known)]
    have shorter : (kept.others host).length < kept.size := by
      obtain ⟨x, mem, hx⟩ := List.mem_map.mp known
      exact List.length_filter_lt_length_iff_exists.mpr ⟨x, mem, by simpa using hx⟩
    exact List.take_of_length_le (Nat.le_trans shorter inv.valid.size_le)
  · by_cases space : kept.size < room
    · rw [if_pos (.inr space), inserted known, if_pos space, Recent.others_of_not_mem known]
    · rw [if_neg (not_or.mpr ⟨known, space⟩)]
      have full : kept.entries ≠ [] := by
        intro none
        have pos := inv.valid.pos
        rw [inv.capacity] at pos
        exact space (by simpa [Recent.size, none] using pos)
      have entries := (List.dropLast_concat_getLast full).symm
      exact ⟨_, _, entries, by rw [inserted known, if_neg space], inv.usedAfter_last entries⟩

/-- Let host names be resolved at the same time, from an empty memory. At any time there are at most
`capacity` entries, or one, and no host twice; none is an address in its dotted form, and what is
remembered of a host is what some look-up of it answered. A resolution that is done answers with the
address that its host spells, or else with what some look-up of that host answered. Putting an address
into the memory leaves all other entries there if its host is there already or there is room;
otherwise exactly one entry goes, and the hosts of all others were used after its host. -/
theorem addresses_of_reaches {handles capacity : Nat}
    (run : Reaches resolve ⟨.empty handles capacity, []⟩ events s) :
    let kept := s.memory.addresses
    kept.size ≤ max 1 capacity ∧ kept.keys.Nodup ∧
    (∀ host answer, (host, answer) ∈ kept.entries →
      Ipv4.ofText? host = none ∧ LookedUp events host answer) ∧
    (∀ (i : Nat) host answer, s.threads[i]? = some ⟨host, .done answer⟩ →
      match Ipv4.ofText? host with
      | some address => answer = some address
      | none => LookedUp events host answer) ∧
    ∀ i host answer s', Moves resolve s (.remembers i (.keepAddress host answer)) s' →
      let later := s'.memory.addresses
      if host ∈ kept.keys ∨ kept.size < max 1 capacity then
        later.entries = (host, answer) :: kept.others host
      else ∃ stay dropped, kept.entries = stay ++ [dropped] ∧
        later.entries = (host, answer) :: stay ∧ ∀ x ∈ stay, UsedAfter events x.1 dropped.1 := by
  intro kept
  have inv := overlapping_of_reaches run
  have size := inv.valid.size_le
  rw [inv.capacity] at size
  refine ⟨size, inv.valid.nodup, fun host answer hx => inv.entries _ hx, ?_, ?_⟩
  · intro i host answer ht
    cases inv.underway i _ ht with
    | literal literal => simp [literal]
    | done named found => simpa [named] using found
  · intro i host answer s' move later
    cases move with
    | remember at_i => exact inv.insert host answer

/-- Two hosts are looked up at the same time, with room for one. The one that is remembered last is
there by then, and the other one goes. -/
theorem addresses_of_reaches_two :
    let localhost : Ipv4 := ⟨127, 0, 0, 1⟩
    ∃ events s s', Reaches resolve ⟨.empty 4 0, []⟩ events s ∧
      s.threads[0]? = some ⟨"db", .done none⟩ ∧ LookedUp events "db" none ∧
      Moves resolve s (.remembers 1 (.keepAddress "www" (some localhost))) s' ∧
      s.memory.addresses.entries = [("db", none)] ∧
      s'.memory.addresses.entries = [("www", some localhost)] := by
  intro localhost
  have db : Ipv4.ofText? "db" = none := by decide
  have www : Ipv4.ofText? "www" = none := by decide
  let empty : Memory := .empty 4 0
  let kept : Memory := (Memory.Step.apply (.keepAddress "db" none) empty).2
  let first (rest : Program (Option Ipv4)) : Thread String (Option Ipv4) := ⟨"db", rest⟩
  let second (rest : Program (Option Ipv4)) : Thread String (Option Ipv4) := ⟨"www", rest⟩
  have start : Moves resolve ⟨empty, []⟩ (.starts "db") ⟨empty, [first (resolve "db")]⟩ :=
    .start "db"
  have find : Moves resolve ⟨empty, [first (resolve "db")]⟩ (.remembers 0 (.findAddress "db"))
      ⟨empty, [first (.ask (.lookUp "db") (afterLookUp "db"))]⟩ :=
    moves_remember_first (resolve_named db)
  have start' : Moves resolve ⟨empty, [first (.ask (.lookUp "db") (afterLookUp "db"))]⟩
      (.starts "www")
      ⟨empty, [first (.ask (.lookUp "db") (afterLookUp "db")), second (resolve "www")]⟩ :=
    .start "www"
  have find' : Moves resolve
      ⟨empty, [first (.ask (.lookUp "db") (afterLookUp "db")), second (resolve "www")]⟩
      (.remembers 1 (.findAddress "www"))
      ⟨empty, [first (.ask (.lookUp "db") (afterLookUp "db")),
        second (.ask (.lookUp "www") (afterLookUp "www"))]⟩ :=
    moves_remember_after [first _] (resolve_named www)
  have answer : Moves resolve
      ⟨empty, [first (.ask (.lookUp "db") (afterLookUp "db")),
        second (.ask (.lookUp "www") (afterLookUp "www"))]⟩
      (.asks 0 ⟨.lookUp "db", none⟩)
      ⟨empty, [first (afterLookUp "db" none),
        second (.ask (.lookUp "www") (afterLookUp "www"))]⟩ :=
    moves_ask_first (q := .lookUp "db") rfl none
  have answer' : Moves resolve
      ⟨empty, [first (afterLookUp "db" none),
        second (.ask (.lookUp "www") (afterLookUp "www"))]⟩
      (.asks 1 ⟨.lookUp "www", some localhost⟩)
      ⟨empty, [first (afterLookUp "db" none), second (afterLookUp "www" (some localhost))]⟩ :=
    moves_ask_after (q := .lookUp "www") [first _] rfl (some localhost)
  have keep : Moves resolve
      ⟨empty, [first (afterLookUp "db" none), second (afterLookUp "www" (some localhost))]⟩
      (.remembers 0 (.keepAddress "db" none))
      ⟨kept, [first (.done none), second (afterLookUp "www" (some localhost))]⟩ :=
    moves_remember_first rfl
  have keep' : Moves resolve
      ⟨kept, [first (.done none), second (afterLookUp "www" (some localhost))]⟩
      (.remembers 1 (.keepAddress "www" (some localhost)))
      ⟨(Memory.Step.apply (.keepAddress "www" (some localhost)) kept).2,
        [first (.done none), second (.done (some localhost))]⟩ :=
    moves_remember_after [first _] rfl
  have run := ((((((Reaches.refl.snoc start).snoc find).snoc start').snoc find').snoc answer).snoc
    answer').snoc keep
  obtain ⟨-, -, -, answered, insertion⟩ := addresses_of_reaches run
  have found := answered 0 "db" none rfl
  simp only [db] at found
  have dropped := insertion 1 "www" (some localhost) _ keep'
  rw [if_neg (by decide)] at dropped
  obtain ⟨stay, last, before, after, -⟩ := dropped
  have one : kept.addresses.entries = [("db", none)] := by decide
  have none_stay : stay = [] := by
    have length := congrArg List.length (one.symm.trans before)
    simpa using length
  subst none_stay
  exact ⟨_, _, _, run, rfl, found, keep', one, after⟩

end Sandboxes.Resolver
