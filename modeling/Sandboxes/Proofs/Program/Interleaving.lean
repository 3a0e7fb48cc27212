import Sandboxes.Proofs.Program.Confinement

/-!
# Interleaved programs

Programs that run at the same time on one memory take turns at every question and every step of the
memory. A program may be started at any time, and one that is never continued has been dropped. What
holds of every interleaving holds of every sequence of runs, too.
-/

namespace Sandboxes.Program

variable {ι α : Type}

/-! ### Threads -/

/-- A program under way: what it was started for, and what is left of it. -/
structure Thread (ι α : Type) where
  job : ι
  rest : Program α

/-- Programs under way, in the order in which they were started, and the memory that they share. -/
structure System (ι α : Type) where
  memory : Memory
  threads : List (Thread ι α)

/-- What happens at once, with the place of the thread that does it. -/
inductive Event (ι : Type)
  | starts (job : ι)
  | asks (i : Nat) (x : Exchange)
  | remembers (i : Nat) (s : Memory.Step)

/-- One event changes the system. -/
inductive Moves (program : ι → Program α) : System ι α → Event ι → System ι α → Prop
  | start {m : Memory} {ts : List (Thread ι α)} (job : ι) :
      Moves program ⟨m, ts⟩ (.starts job) ⟨m, ts ++ [⟨job, program job⟩]⟩
  | ask {m : Memory} {ts : List (Thread ι α)} {i : Nat} {job : ι} {q : Query}
      {next : q.Reply → Program α} (at_i : ts[i]? = some ⟨job, .ask q next⟩) (r : q.Reply) :
      Moves program ⟨m, ts⟩ (.asks i ⟨q, r⟩) ⟨m, ts.set i ⟨job, next r⟩⟩
  | remember {m : Memory} {ts : List (Thread ι α)} {i : Nat} {job : ι} {s : Memory.Step}
      {next : s.Result → Program α} (at_i : ts[i]? = some ⟨job, .remember s next⟩) :
      Moves program ⟨m, ts⟩ (.remembers i s)
        ⟨(s.apply m).2, ts.set i ⟨job, next (s.apply m).1⟩⟩

/-- A run of the system from one state to another, with the events in between. -/
inductive Reaches (program : ι → Program α) (start : System ι α) :
    List (Event ι) → System ι α → Prop
  | refl : Reaches program start [] start
  | snoc {events : List (Event ι)} {e : Event ι} {s s' : System ι α}
      (before : Reaches program start events s) (move : Moves program s e s') :
      Reaches program start (events ++ [e]) s'

variable {program : ι → Program α} {start s s' : System ι α} {events : List (Event ι)} {e : Event ι}

section Moves

variable {m : Memory} {front back : List (Thread ι α)} {job : ι} {p : Program α}

lemma moves_ask_after (front : List (Thread ι α)) {q : Query} {next : q.Reply → Program α}
    (h : p = .ask q next) (r : q.Reply) :
    Moves program ⟨m, front ++ ⟨job, p⟩ :: back⟩ (.asks front.length ⟨q, r⟩)
      ⟨m, front ++ ⟨job, next r⟩ :: back⟩ := by
  have at_front : (front ++ ⟨job, p⟩ :: back)[front.length]? = some ⟨job, .ask q next⟩ := by
    simp [h]
  have move : Moves program ⟨m, front ++ ⟨job, p⟩ :: back⟩ _ _ := .ask at_front r
  simpa using move

lemma moves_remember_after (front : List (Thread ι α)) {s : Memory.Step}
    {next : s.Result → Program α} (h : p = .remember s next) :
    Moves program ⟨m, front ++ ⟨job, p⟩ :: back⟩ (.remembers front.length s)
      ⟨(s.apply m).2, front ++ ⟨job, next (s.apply m).1⟩ :: back⟩ := by
  have at_front : (front ++ ⟨job, p⟩ :: back)[front.length]? = some ⟨job, .remember s next⟩ := by
    simp [h]
  have move : Moves program ⟨m, front ++ ⟨job, p⟩ :: back⟩ _ _ := .remember at_front
  simpa using move

lemma moves_ask_first {q : Query} {next : q.Reply → Program α} (h : p = .ask q next) (r : q.Reply) :
    Moves program ⟨m, ⟨job, p⟩ :: back⟩ (.asks 0 ⟨q, r⟩) ⟨m, ⟨job, next r⟩ :: back⟩ :=
  moves_ask_after [] h r

lemma moves_remember_first {s : Memory.Step} {next : s.Result → Program α}
    (h : p = .remember s next) :
    Moves program ⟨m, ⟨job, p⟩ :: back⟩ (.remembers 0 s)
      ⟨(s.apply m).2, ⟨job, next (s.apply m).1⟩ :: back⟩ :=
  moves_remember_after [] h

end Moves

/-- The number of threads never falls. -/
lemma Moves.length_le (move : Moves program s e s') : s.threads.length ≤ s'.threads.length := by
  cases move with
  | start job => simp
  | ask at_i r => simp
  | remember at_i => simp

/-- The thread at a place is the one that was there, unless it is the one that moved or started. -/
lemma Moves.thread_cases (move : Moves program s e s') {i : Nat} {t : Thread ι α}
    (h : s'.threads[i]? = some t) :
    s.threads[i]? = some t ∨
    (e = .starts t.job ∧ i = s.threads.length ∧ t.rest = program t.job) ∨
    (∃ q next r, s.threads[i]? = some ⟨t.job, .ask q next⟩ ∧ e = .asks i ⟨q, r⟩ ∧
      t.rest = next r) ∨
    (∃ step next, s.threads[i]? = some ⟨t.job, .remember step next⟩ ∧ e = .remembers i step ∧
      t.rest = next (step.apply s.memory).1) := by
  cases move with
  | @start m ts job =>
    rcases Nat.lt_or_ge i ts.length with hi | hi
    · rw [List.getElem?_append_left hi] at h
      exact .inl h
    · rw [List.getElem?_append_right hi, List.getElem?_singleton] at h
      split at h
      · cases h
        exact .inr (.inl ⟨rfl, by simp only; omega, rfl⟩)
      · cases h
  | @ask m ts k job q next at_k r =>
    rw [List.getElem?_set] at h
    split at h
    · subst k
      split at h
      · cases h
        exact .inr (.inr (.inl ⟨q, next, r, at_k, rfl, rfl⟩))
      · cases h
    · exact .inl h
  | @remember m ts k job step next at_k =>
    rw [List.getElem?_set] at h
    split at h
    · subst k
      split at h
      · cases h
        exact .inr (.inr (.inr ⟨step, next, at_k, rfl, rfl⟩))
      · cases h
    · exact .inl h

/-- Threads stay where they are, and keep their jobs. -/
lemma Moves.exists_rest (move : Moves program s e s') {i : Nat} {t : Thread ι α}
    (h : s.threads[i]? = some t) : ∃ rest, s'.threads[i]? = some ⟨t.job, rest⟩ := by
  have hi : i < s.threads.length := (List.getElem?_eq_some_iff.mp h).1
  cases move with
  | start job => exact ⟨t.rest, by rw [List.getElem?_append_left hi]; exact h⟩
  | @ask m ts k job q next at_k r =>
    by_cases hk : k = i
    · subst k
      cases h.symm.trans at_k
      exact ⟨next r, List.getElem?_set_self hi⟩
    · exact ⟨t.rest, by rw [List.getElem?_set_ne hk]; exact h⟩
  | @remember m ts k job step next at_k =>
    by_cases hk : k = i
    · subst k
      cases h.symm.trans at_k
      exact ⟨next (step.apply m).1, List.getElem?_set_self hi⟩
    · exact ⟨t.rest, by rw [List.getElem?_set_ne hk]; exact h⟩

/-! ### The order of events -/

/-- The place of the thread that asks or remembers. -/
def Event.place? : Event ι → Option Nat
  | .starts _ => none
  | .asks i _ | .remembers i _ => some i

/-- Only threads that were started do anything. -/
lemma Reaches.place_lt (run : Reaches program start events s) (mem : e ∈ events) {i : Nat}
    (place : e.place? = some i) : i < s.threads.length := by
  induction run with
  | refl => cases mem
  | snoc before move ih =>
    rcases List.mem_append.mp mem with mem | mem
    · exact Nat.lt_of_lt_of_le (ih mem) move.length_le
    · cases List.mem_singleton.mp mem
      cases move with
      | start job => cases place
      | ask at_i r =>
        cases place
        exact Nat.lt_of_lt_of_le (List.getElem?_eq_some_iff.mp at_i).1 (by simp)
      | remember at_i =>
        cases place
        exact Nat.lt_of_lt_of_le (List.getElem?_eq_some_iff.mp at_i).1 (by simp)

lemma Reaches.trans {later : List (Event ι)} {s'' : System ι α} (run : Reaches program s events s')
    (more : Reaches program s' later s'') : Reaches program s (events ++ later) s'' := by
  induction more with
  | refl => simpa using run
  | snoc before move ih => exact List.append_assoc .. ▸ ih.snoc move

/-- The first event happened, and the second one after it. -/
def Precedes (events : List (Event ι)) (first second : Event ι) : Prop :=
  [first, second].Sublist events

section Precedes

variable {first second : Event ι} {later : List (Event ι)}

lemma Precedes.append (h : Precedes events first second) (later : List (Event ι)) :
    Precedes (events ++ later) first second :=
  h.trans (List.sublist_append_left events later)

lemma precedes_append (hf : first ∈ events) (hs : second ∈ later) :
    Precedes (events ++ later) first second :=
  (List.singleton_sublist.mpr hf).append (List.singleton_sublist.mpr hs)

lemma precedes_snoc (h : first ∈ events) : Precedes (events ++ [e]) first e :=
  precedes_append h (List.mem_singleton_self e)

lemma Precedes.mem (h : Precedes events first second) : first ∈ events ∧ second ∈ events :=
  ⟨h.subset (by simp), h.subset (by simp)⟩

/-- Of two different events one precedes the other. -/
lemma precedes_or_precedes (hf : first ∈ events) (hs : second ∈ events) (ne : first ≠ second) :
    Precedes events first second ∨ Precedes events second first := by
  obtain ⟨before, after, rfl⟩ := List.append_of_mem hf
  rcases List.mem_append.mp hs with hs | hs
  · exact .inr (precedes_append hs (List.mem_cons_self ..))
  · rcases List.mem_cons.mp hs with rfl | hs
    · exact absurd rfl ne
    · left
      have order : Precedes ((before ++ [first]) ++ after) first second :=
        precedes_append (by simp) hs
      simpa using order

/-- What happened before an event that is not among the first contains all of them. -/
lemma exists_eq_append {past rest : List (Event ι)} (split : events ++ later = past ++ e :: rest)
    (absent : e ∉ events) : ∃ since, past = events ++ since := by
  rcases List.append_eq_append_iff.mp split with ⟨since, hpast, -⟩ | ⟨more, hevents, hmore⟩
  · exact ⟨since, hpast⟩
  · cases more with
    | nil => exact ⟨[], by simpa using hevents.symm⟩
    | cons x more =>
      cases hmore
      exact absurd (by simp [hevents]) absent

/-- An event that is not among the first does not precede one that is not among the others. -/
lemma not_precedes_append (hf : first ∉ events) (hs : second ∉ later) :
    ¬ Precedes (events ++ later) first second := by
  intro h
  obtain ⟨l, l', heq, hl, hl'⟩ := List.sublist_append_iff.mp h
  cases l with
  | nil =>
    rw [List.nil_append] at heq
    exact hs (hl'.subset (by simp [← heq]))
  | cons x l =>
    rw [List.cons_append, List.cons.injEq] at heq
    exact hf (hl.subset (by simp [heq.1]))

end Precedes

end Sandboxes.Program
