import Sandboxes.Proofs.Profile
import Sandboxes.Proofs.Program.Interleaving
import Sandboxes.Proofs.Provider.Instances

/-!
# Getting and destroying at the same time

Handles are got by name and destroyed, by any number of threads. Nothing is locked between finding a
container and keeping its handle, so that a handle may be kept after its name was forgotten and its
container removed. `fresh_or_overtaken` says that this is the only way in which a handle that is got
after a removal may be older than that removal.
-/

namespace Sandboxes

open Program Container

namespace Memory

variable {m : Memory} {v : Variant} {s : Step} {k : String} {g : Handle}

lemma mem_kept_of_setKept {w : Variant} {handles : Recent String Handle}
    (h : (k, g) ∈ ((m.setKept w handles).kept v).entries) :
    v = w ∧ (k, g) ∈ handles.entries ∨ (k, g) ∈ (m.kept v).entries := by
  by_cases hw : v = w
  · subst hw
    rw [kept_setKept] at h
    exact .inl ⟨rfl, h⟩
  · right
    cases v <;> cases w <;> first | exact h | exact absurd rfl hw

/-- A handle that is kept after a step was kept before it, unless the step keeps it. -/
lemma mem_kept_of_apply (h : (k, g) ∈ ((s.apply m).2.kept v).entries) :
    (k, g) ∈ (m.kept v).entries ∨ s = .keep v k g := by
  cases s with
  | find w id =>
    rcases mem_kept_of_setKept h with ⟨rfl, h⟩ | h
    · exact .inl (Recent.mem_entries_touch h)
    · exact .inl h
  | keep w id handle =>
    rcases mem_kept_of_setKept h with ⟨rfl, h⟩ | h
    · rcases Recent.mem_entries_insert h with h | h
      · cases h
        exact .inr rfl
      · exact .inl h
    · exact .inl h
  | forget w id =>
    rcases mem_kept_of_setKept h with ⟨rfl, h⟩ | h
    · exact .inl (Recent.mem_entries_erase.mp h).1
    · exact .inl h
  | _ => cases v <;> exact .inl h

lemma not_mem_kept_of_forget : (k, g) ∉ ((Step.apply (.forget v k) m).2.kept v).entries := by
  rw [Step.apply, kept_setKept]
  exact fun h => (Recent.mem_entries_erase.mp h).2 rfl

end Memory

namespace Provider

/-! ### Jobs -/

/-- What may be done at the same time. -/
inductive Job
  | get (id : String)
  | destroy (h : Handle)

/-- What a job gives. -/
inductive Outcome
  | got (r : Except Failure Handle)
  | destroyed (done : Bool)

/-- Does a job. -/
def start (p : Provider) : Job → Program Outcome
  | .get id => do return .got (← p.get id)
  | .destroy h => do return .destroyed (← h.destroy)

/-- What is left of getting a handle once it was made. -/
def keeping (p : Provider) (id : String) (g : Handle) : Program Outcome :=
  .remember (.keep p.profile.variant id g) fun _ => .done (.got (.ok g))

/-- What is left of getting a handle once its container was looked for. -/
def afterAttach (p : Provider) (id : String) : Except Failure Endpoint → Program Outcome
  | .ok e => .remember .number fun n => p.keeping id (.ofEndpoint p.profile p.provisioner e n)
  | .error failure => .done (.got (.error failure))

/-- What is left of getting a handle once it was looked for among those that are kept. -/
def afterFind (p : Provider) (id : String) : Option Handle → Program Outcome
  | some g => .done (.got (.ok g))
  | none => .ask (.attach id) (p.afterAttach id)

variable {p : Provider}

lemma start_get (delegated : p.provisioner = .delegated) {id : String} :
    p.start (.get id) = .remember (.find p.profile.variant id) (p.afterFind id) := by
  obtain ⟨profile, provisioner⟩ := p
  cases delegated
  refine congrArg (Program.remember _) (funext fun found => ?_)
  cases found with
  | some g => rfl
  | none =>
    refine congrArg (Program.ask _) (funext fun out => ?_)
    cases out <;> rfl

/-- What is left of destroying a handle once it was closed. -/
def forgetting (h : Handle) : Program Outcome :=
  .remember (.forget h.variant h.id) fun _ => h.tearDown >>= fun done => pure (.destroyed done)

lemma start_destroy {h : Handle} : p.start (.destroy h) =
    .remember (.close h.number) fun closed =>
      if closed then .done (.destroyed true) else forgetting h := by
  rw [start, Handle.destroy_eq]
  refine congrArg (Program.remember _) (funext fun closed => ?_)
  cases closed <;> rfl

/-! ### What came about -/

section Phases

variable (p) (events : List (Event Job))

/-- The handle is one for the container of that name that thread `i` found before it kept the handle. -/
structure KeptBy (i : Nat) (id : String) (g : Handle) (e : Endpoint) : Prop where
  made : ∃ n, g = .ofEndpoint p.profile p.provisioner e n
  kept : Precedes events (.asks i ⟨.attach id, Except.ok e⟩)
    (.remembers i (.keep p.profile.variant id g))

/-- The handle was kept by some thread, and its name was forgotten before that only. -/
def IsKept (id : String) (g : Handle) : Prop :=
  ∃ i e, p.KeptBy events i id g e ∧
    ∀ d, .remembers d (.forget p.profile.variant id) ∈ events →
      Precedes events (.remembers d (.forget p.profile.variant id))
        (.remembers i (.keep p.profile.variant id g))

/-- How far thread `i` is with getting a handle by name. -/
inductive Getting (i : Nat) (id : String) : Program Outcome → Prop
  | looking : Getting i id (.remember (.find p.profile.variant id) (p.afterFind id))
  | asking : Getting i id (.ask (.attach id) (p.afterAttach id))
  | numbering {e : Endpoint} (found : .asks i ⟨.attach id, Except.ok e⟩ ∈ events) :
      Getting i id
        (.remember .number fun n => p.keeping id (.ofEndpoint p.profile p.provisioner e n))
  | keeping {e : Endpoint} {n : Nat} (found : .asks i ⟨.attach id, Except.ok e⟩ ∈ events) :
      Getting i id (p.keeping id (.ofEndpoint p.profile p.provisioner e n))
  | failed {failure : Failure} (failed : .asks i ⟨.attach id, Except.error failure⟩ ∈ events) :
      Getting i id (.done (.got (.error failure)))
  | made {g : Handle} {e : Endpoint} (kept : p.KeptBy events i id g e) :
      Getting i id (.done (.got (.ok g)))
  | known {g : Handle} {past later : List (Event Job)}
      (split : events = past ++ .remembers i (.find p.profile.variant id) :: later)
      (kept : p.IsKept past id g) : Getting i id (.done (.got (.ok g)))

/-- How far thread `i` is with destroying a handle. -/
inductive Destroying (events : List (Event Job)) (i : Nat) (h : Handle) : Program Outcome → Prop
  | closing (silent : ∀ x, .asks i x ∉ events) :
      Destroying events i h (.remember (.close h.number) fun closed =>
        if closed then .done (.destroyed true) else forgetting h)
  | forgetting (silent : ∀ x, .asks i x ∉ events) : Destroying events i h (forgetting h)
  | closed (silent : ∀ x, .asks i x ∉ events) : Destroying events i h (.done (.destroyed true))
  | removing {rest : Program Outcome}
      (forgot : .remembers i (.forget h.variant h.id) ∈ events)
      (after : ∀ x, .asks i x ∈ events →
        Precedes events (.remembers i (.forget h.variant h.id)) (.asks i x))
      (steady : rest.Confined (fun _ => True) fun _ => False) : Destroying events i h rest

/-- How far a thread is with its job. -/
def Underway (i : Nat) : Job → Program Outcome → Prop
  | .get id => p.Getting events i id
  | .destroy h => Destroying events i h

/-- What holds whenever some events happened. -/
structure Overlapping (s : System Job Outcome) : Prop where
  underway : ∀ i t, s.threads[i]? = some t → p.Underway events i t.job t.rest
  kept : ∀ id g, (id, g) ∈ (s.memory.kept p.profile.variant).entries → p.IsKept events id g

end Phases

variable {events : List (Event Job)} {e : Event Job} {s s' : System Job Outcome} {i : Nat}
  {id : String} {g h : Handle}

lemma KeptBy.append {endpoint : Endpoint} (kept : p.KeptBy events i id g endpoint)
    (later : List (Event Job)) : p.KeptBy (events ++ later) i id g endpoint :=
  ⟨kept.made, kept.kept.append later⟩

lemma IsKept.snoc (kept : p.IsKept events id g)
    (other : ∀ d, e ≠ .remembers d (.forget p.profile.variant id)) :
    p.IsKept (events ++ [e]) id g := by
  obtain ⟨i, endpoint, keptBy, forgotten⟩ := kept
  refine ⟨i, endpoint, keptBy.append [e], fun d hd => ?_⟩
  rcases List.mem_append.mp hd with hd | hd
  · exact (forgotten d hd).append [e]
  · exact absurd (List.mem_singleton.mp hd).symm (other d)

lemma Getting.append {rest : Program Outcome} (getting : p.Getting events i id rest)
    (later : List (Event Job)) : p.Getting (events ++ later) i id rest := by
  cases getting with
  | looking => exact .looking
  | asking => exact .asking
  | numbering found => exact .numbering (List.mem_append_left _ found)
  | keeping found => exact .keeping (List.mem_append_left _ found)
  | failed failed => exact .failed (List.mem_append_left _ failed)
  | made kept => exact .made (kept.append later)
  | known split kept => exact .known (by rw [split, List.append_assoc, List.cons_append]) kept

/-- A thread that found a container, or not, goes on accordingly. -/
lemma Getting.ask {q : Query} {next : q.Reply → Program Outcome}
    (getting : p.Getting events i id (.ask q next)) (r : q.Reply) :
    p.Getting (events ++ [.asks i ⟨q, r⟩]) i id (next r) := by
  cases getting with
  | asking =>
    cases r with
    | ok e => exact .numbering (by simp)
    | error failure => exact .failed (by simp)

lemma Getting.remember {step : Memory.Step} {next : step.Result → Program Outcome}
    (getting : p.Getting events i id (.remember step next)) {m : Memory}
    (kept : ∀ id g, (id, g) ∈ (m.kept p.profile.variant).entries → p.IsKept events id g) :
    p.Getting (events ++ [.remembers i step]) i id (next (step.apply m).1) := by
  cases getting with
  | looking =>
    change p.Getting _ i id (p.afterFind id ((m.kept p.profile.variant).find? id))
    cases hf : (m.kept p.profile.variant).find? id with
    | none => exact .asking
    | some g => exact .known rfl (kept id g (Recent.mem_entries_of_find? hf))
  | numbering found => exact .keeping (List.mem_append_left _ found)
  | keeping found => exact .made ⟨⟨_, rfl⟩, precedes_snoc found⟩

lemma Destroying.snoc {rest : Program Outcome} (destroying : Destroying events i h rest)
    (asks : ∀ x, e = .asks i x → ∃ next, rest = .ask x.query next) :
    Destroying (events ++ [e]) i h rest := by
  have still : (∀ q next, rest ≠ .ask q next) → (∀ x, .asks i x ∉ events) →
      ∀ x, .asks i x ∉ events ++ [e] := by
    intro idle silent x hx
    rcases List.mem_append.mp hx with hx | hx
    · exact silent x hx
    · obtain ⟨next, hrest⟩ := asks x (List.mem_singleton.mp hx).symm
      exact idle _ _ hrest
  cases destroying with
  | closing silent => exact .closing (still (fun q next hrest => by cases hrest) silent)
  | forgetting silent => exact .forgetting (still (fun q next hrest => by cases hrest) silent)
  | closed silent => exact .closed (still (fun q next hrest => by cases hrest) silent)
  | removing forgot after steady =>
    refine .removing (List.mem_append_left _ forgot) (fun x hx => ?_) steady
    rcases List.mem_append.mp hx with hx | hx
    · exact (after x hx).append [e]
    · cases List.mem_singleton.mp hx
      exact precedes_snoc forgot

lemma Destroying.ask {q : Query} {next : q.Reply → Program Outcome}
    (destroying : Destroying events i h (.ask q next)) (r : q.Reply) :
    Destroying (events ++ [.asks i ⟨q, r⟩]) i h (next r) := by
  cases destroying with
  | removing forgot after steady =>
    refine .removing (List.mem_append_left _ forgot) (fun x hx => ?_) ((confined_ask.mp steady).2 r)
    rcases List.mem_append.mp hx with hx | hx
    · exact (after x hx).append _
    · cases List.mem_singleton.mp hx
      exact precedes_snoc forgot

lemma Destroying.remember {step : Memory.Step} {next : step.Result → Program Outcome}
    (destroying : Destroying events i h (.remember step next)) (m : Memory) :
    Destroying (events ++ [.remembers i step]) i h (next (step.apply m).1) := by
  cases destroying with
  | closing silent =>
    have still : ∀ x, .asks i x ∉ events ++ [.remembers i (.close h.number)] := by
      simpa using silent
    dsimp only
    split
    · exact .closed still
    · exact .forgetting still
  | forgetting silent =>
    refine .removing (by simp) (fun x hx => ?_) Handle.confined_tearDown.any.bind_pure
    exact absurd hx (by simpa using silent x)
  | removing forgot after steady => exact ((confined_remember.mp steady).1).elim

/-! ### Every interleaving -/

/-- Only a thread that has found a container of that name keeps a handle for it. -/
lemma Underway.keeps {job : Job} {next : Unit → Program Outcome}
    (underway : p.Underway events i job (.remember (.keep p.profile.variant id g) next)) :
    p.IsKept (events ++ [.remembers i (.keep p.profile.variant id g)]) id g := by
  have earlier : ∀ d, .remembers d (.forget p.profile.variant id) ∈
      events ++ [.remembers i (.keep p.profile.variant id g)] →
        .remembers d (.forget p.profile.variant id) ∈ events := by
    simp
  cases job with
  | get id =>
    cases underway with
    | keeping found =>
      exact ⟨i, _, ⟨⟨_, rfl⟩, precedes_snoc found⟩, fun d hd => precedes_snoc (earlier d hd)⟩
  | destroy h =>
    cases underway with
    | removing forgot after steady => exact ((confined_remember.mp steady).1).elim

lemma Overlapping.move (delegated : p.provisioner = .delegated) (inv : p.Overlapping events s)
    (places : ∀ e ∈ events, ∀ i, e.place? = some i → i < s.threads.length)
    (move : Moves p.start s e s') : p.Overlapping (events ++ [e]) s' where
  underway i t ht := by
    obtain ⟨job, rest⟩ := t
    obtain old | ⟨rfl, rfl, hrest⟩ | ⟨q, next, r, at_i, rfl, hrest⟩ |
      ⟨step, next, at_i, rfl, hrest⟩ := move.thread_cases ht
    · have underway := inv.underway i _ old
      cases job with
      | get id => exact Getting.append underway [e]
      | destroy h =>
        refine Destroying.snoc underway fun x hx => ?_
        subst hx
        cases move with
        | ask at_i r =>
          cases old.symm.trans at_i
          exact ⟨_, rfl⟩
    · obtain rfl : rest = p.start job := hrest
      cases job with
      | get id =>
        rw [start_get delegated]
        exact Getting.looking
      | destroy h =>
        rw [start_destroy]
        refine Destroying.closing fun x hx => ?_
        have hx : .asks s.threads.length x ∈ events := by simpa using hx
        exact Nat.lt_irrefl _ (places _ hx _ rfl)
    · cases hrest
      have underway := inv.underway i _ at_i
      cases job with
      | get id => exact Getting.ask underway r
      | destroy h => exact Destroying.ask underway r
    · cases hrest
      have underway := inv.underway i _ at_i
      cases job with
      | get id => exact Getting.remember underway inv.kept
      | destroy h => exact Destroying.remember underway s.memory
  kept id g hg := by
    cases move with
    | start job => exact (inv.kept id g hg).snoc (by simp)
    | ask at_i r => exact (inv.kept id g hg).snoc (by simp)
    | @remember m ts k job step next at_k =>
      rcases Memory.mem_kept_of_apply hg with hg' | rfl
      · refine (inv.kept id g hg').snoc fun d hd => ?_
        cases hd
        exact Memory.not_mem_kept_of_forget hg
      · exact Underway.keeps (inv.underway k _ at_k)

lemma overlapping_of_reaches (delegated : p.provisioner = .delegated) {m : Memory}
    (nothing : (m.kept p.profile.variant).entries = []) (run : Reaches p.start ⟨m, []⟩ events s) :
    p.Overlapping events s := by
  induction run with
  | refl => exact ⟨fun i t ht => (by simp at ht), fun id g hg => (by simp [nothing] at hg)⟩
  | snoc before move ih => exact ih.move delegated (fun e he i hi => before.place_lt he hi) move

/-! ### A get that is overtaken -/

section Overtaken

variable {m : Memory} {e : Endpoint} {name : String}

/-- A handle is got and destroyed at the same time: its container is found, and then removed. -/
lemma reaches_removal (delegated : p.provisioner = .delegated)
    (delegated' : h.provisioner = .delegated) (nothing : (m.kept p.profile.variant).entries = [])
    (opened : h.number ∉ m.closed) (goes : h.teardown = some name) :
    Reaches p.start ⟨m, []⟩
      [.starts (.get h.id), .remembers 0 (.find p.profile.variant h.id),
        .asks 0 ⟨.attach h.id, Except.ok e⟩, .remembers 0 .number, .starts (.destroy h),
        .remembers 1 (.close h.number), .remembers 1 (.forget h.variant h.id),
        .asks 1 ⟨.remove name, Except.ok ()⟩]
      ⟨h.afterClose { m with made := m.made + 1 },
        [⟨.get h.id, p.keeping h.id (.ofEndpoint p.profile p.provisioner e m.made)⟩,
          ⟨.destroy h, .done (.destroyed true)⟩]⟩ := by
  have miss : (m.kept p.profile.variant).find? h.id = none := by
    simp [Recent.find?, nothing]
  have told : Memory.Step.apply (.find p.profile.variant h.id) m = (none, m) := by
    rw [Memory.Step.apply, miss, Recent.touch_of_find?_eq_none miss, Memory.setKept_kept]
  let numbered : Memory := { m with made := m.made + 1 }
  let getting (rest : Program Outcome) : Thread Job Outcome := ⟨.get h.id, rest⟩
  let destroying (rest : Program Outcome) : Thread Job Outcome := ⟨.destroy h, rest⟩
  let made := p.keeping h.id (.ofEndpoint p.profile p.provisioner e m.made)
  let removing : Program Outcome := h.tearDown >>= fun done => pure (.destroyed done)
  have asks : removing = .ask (.remove name) fun out => pure (.destroyed out.isOk) := by
    simp only [removing, Handle.tearDown, goes, delegated']
    rfl
  have get : Moves p.start ⟨m, []⟩ (.starts (.get h.id)) ⟨m, [getting (p.start (.get h.id))]⟩ :=
    .start (Job.get h.id)
  have find : Moves p.start ⟨m, [getting (p.start (.get h.id))]⟩
      (.remembers 0 (.find p.profile.variant h.id))
      ⟨m, [getting (.ask (.attach h.id) (p.afterAttach h.id))]⟩ := by
    have move : Moves p.start ⟨m, [getting (p.start (.get h.id))]⟩ _ _ :=
      moves_remember_first (start_get delegated)
    rw [told] at move
    exact move
  have attach : Moves p.start ⟨m, [getting (.ask (.attach h.id) (p.afterAttach h.id))]⟩
      (.asks 0 ⟨.attach h.id, Except.ok e⟩) ⟨m, [getting (p.afterAttach h.id (.ok e))]⟩ :=
    moves_ask_first rfl _
  have number : Moves p.start ⟨m, [getting (p.afterAttach h.id (.ok e))]⟩ (.remembers 0 .number)
      ⟨numbered, [getting made]⟩ :=
    moves_remember_first rfl
  have destroy : Moves p.start ⟨numbered, [getting made]⟩ (.starts (.destroy h))
      ⟨numbered, [getting made, destroying (p.start (.destroy h))]⟩ :=
    .start (Job.destroy h)
  have close : Moves p.start ⟨numbered, [getting made, destroying (p.start (.destroy h))]⟩
      (.remembers 1 (.close h.number))
      ⟨((Memory.Step.close h.number).apply numbered).2,
        [getting made, destroying (forgetting h)]⟩ := by
    have move : Moves p.start ⟨numbered, [getting made, destroying (p.start (.destroy h))]⟩ _ _ :=
      moves_remember_after [getting made] start_destroy
    simpa [Memory.Step.apply, opened, numbered] using move
  have forget : Moves p.start ⟨((Memory.Step.close h.number).apply numbered).2,
        [getting made, destroying (forgetting h)]⟩
      (.remembers 1 (.forget h.variant h.id))
      ⟨h.afterClose numbered, [getting made, destroying removing]⟩ :=
    moves_remember_after [getting made] rfl
  have remove : Moves p.start ⟨h.afterClose numbered, [getting made, destroying removing]⟩
      (.asks 1 ⟨.remove name, Except.ok ()⟩)
      ⟨h.afterClose numbered, [getting made, destroying (.done (.destroyed true))]⟩ :=
    moves_ask_after [getting made] asks (Except.ok ())
  exact (((((((Reaches.refl.snoc get).snoc find).snoc attach).snoc number).snoc destroy).snoc
    close).snoc forget).snoc remove

/-- The handle is then kept, and got again. -/
lemma reaches_again (delegated : p.provisioner = .delegated)
    (valid : (m.kept p.profile.variant).Valid) :
    ∃ m', Reaches p.start
      ⟨m, [⟨.get id, p.keeping id g⟩, ⟨.destroy h, .done (.destroyed true)⟩]⟩
      [.remembers 0 (.keep p.profile.variant id g), .starts (.get id),
        .remembers 2 (.find p.profile.variant id)]
      ⟨m', [⟨.get id, .done (.got (.ok g))⟩, ⟨.destroy h, .done (.destroyed true)⟩,
        ⟨.get id, .done (.got (.ok g))⟩]⟩ := by
  let ended : List (Thread Job Outcome) :=
    [⟨.get id, .done (.got (.ok g))⟩, ⟨.destroy h, .done (.destroyed true)⟩]
  let kept : Memory := (Memory.Step.apply (.keep p.profile.variant id g) m).2
  have hit : (kept.kept p.profile.variant).find? id = some g := by
    simp only [kept, Memory.Step.apply, Memory.kept_setKept]
    exact (Recent.holds_insert_self valid).find? List.not_mem_nil
  have keep : Moves p.start ⟨m, [⟨.get id, p.keeping id g⟩, ⟨.destroy h, .done (.destroyed true)⟩]⟩
      (.remembers 0 (.keep p.profile.variant id g)) ⟨kept, ended⟩ :=
    moves_remember_first rfl
  have get : Moves p.start ⟨kept, ended⟩ (.starts (.get id))
      ⟨kept, ended ++ [⟨.get id, p.start (.get id)⟩]⟩ :=
    .start (Job.get id)
  have find : Moves p.start ⟨kept, ended ++ [⟨.get id, p.start (.get id)⟩]⟩
      (.remembers 2 (.find p.profile.variant id))
      ⟨(Memory.Step.apply (.find p.profile.variant id) kept).2,
        ended ++ [⟨.get id, .done (.got (.ok g))⟩]⟩ := by
    have move : Moves p.start ⟨kept, ended ++ [⟨.get id, p.start (.get id)⟩]⟩ _ _ :=
      moves_remember_after ended (start_get delegated)
    have told : (Memory.Step.apply (.find p.profile.variant id) kept).1 = some g := hit
    rw [told] at move
    exact move
  exact ⟨_, ((Reaches.refl.snoc keep).snoc get).snoc find⟩

/-- The provider of the usual all-in-one sandboxes, in containers of a runtime outside. -/
def usual : Provider :=
  ⟨.aio .usual, .delegated⟩

/-- A handle of the usual provider, for a container of that name. -/
def usualHandle (ownership : Ownership) (number : Nat) : Handle :=
  .ofEndpoint usual.profile usual.provisioner ⟨some "aio-sandbox-0badc0de", "10.0.0.7", ownership⟩
    number

/-- A memory when one handle was made. -/
def oneMade : Memory :=
  { Memory.empty 4 4 with made := 1 }

/-- The container of a handle that was created is found, then the handle is destroyed, and what was
found is kept and got again. -/
lemma reaches_overtaken :
    let v := usual.profile.variant
    let h := usualHandle .created 0
    let e : Endpoint := ⟨some h.id, "10.0.0.7", .attached⟩
    let g := usualHandle .attached 1
    ∃ s s', Reaches usual.start ⟨oneMade, []⟩
        ([.starts (.get h.id), .remembers 0 (.find v h.id), .asks 0 ⟨.attach h.id, Except.ok e⟩,
          .remembers 0 .number, .starts (.destroy h), .remembers 1 (.close h.number),
          .remembers 1 (.forget v h.id)] ++ [.asks 1 ⟨.remove h.id, Except.ok ()⟩]) s ∧
      s.threads[1]? = some ⟨.destroy h, .done (.destroyed true)⟩ ∧ s.threads.length = 2 ∧
      Reaches usual.start s
        [.remembers 0 (.keep v h.id g), .starts (.get h.id), .remembers 2 (.find v h.id)] s' ∧
      s'.threads[2]? = some ⟨.get h.id, .done (.got (.ok g))⟩ := by
  intro v h e g
  have owned : (Profile.aio .usual).owns "aio-sandbox-0badc0de" = true := by decide +kernel
  have goes : Handle.teardownOf usual.profile ⟨some "aio-sandbox-0badc0de", "10.0.0.7", .created⟩ =
      some "aio-sandbox-0badc0de" :=
    Handle.teardownOf_eq_some.mpr ⟨by simp, rfl, owned⟩
  have valid : ((h.afterClose { oneMade with made := 2 }).kept h.variant).Valid := by
    rw [Handle.kept_afterClose]
    exact (Recent.valid_empty 4).erase
  obtain ⟨m', again⟩ : ∃ m', Reaches usual.start ⟨_, [⟨.get h.id, usual.keeping h.id g⟩, _]⟩ _ ⟨m', _⟩ :=
    reaches_again (h := h) rfl valid
  exact ⟨_, _, reaches_removal (p := usual) rfl rfl rfl List.not_mem_nil goes, rfl, rfl, again, rfl⟩

end Overtaken

/-- A handle that is kept is one for a container that was found after a removal, or kept after the name
had been forgotten before that removal. -/
lemma IsKept.found_or_overtaken {d : Nat} {x : Exchange} (kept : p.IsKept events h.id g)
    (same : h.variant = p.profile.variant) (forgot : .remembers d (.forget h.variant h.id) ∈ events)
    (removed : .asks d x ∈ events) (other : ∀ e, x ≠ ⟨.attach h.id, Except.ok e⟩) :
    ∃ i e, p.KeptBy events i h.id g e ∧
      (Precedes events (.asks d x) (.asks i ⟨.attach h.id, Except.ok e⟩) ∨
        Precedes events (.asks i ⟨.attach h.id, Except.ok e⟩) (.asks d x) ∧
        Precedes events (.remembers d (.forget h.variant h.id))
          (.remembers i (.keep p.profile.variant h.id g))) := by
  obtain ⟨i, e, keptBy, forgotten⟩ := kept
  rw [same] at forgot
  have overtaken := forgotten d forgot
  have order := precedes_or_precedes removed keptBy.kept.mem.1
    fun heq => other e (Event.asks.inj heq).2
  refine ⟨i, e, keptBy, order.imp_right fun found => ⟨found, ?_⟩⟩
  rw [same]
  exact overtaken

/-- Let a handle have been destroyed, and its container removed. A get of that name which is started
afterwards fails because the container is not found then, or gives a handle for a container that was
found after the removal, unless a get was overtaken: it had found the container before the removal, and
kept its handle when the name was already forgotten. -/
theorem fresh_or_overtaken (p : Provider) (delegated : p.provisioner = .delegated) (m : Memory)
    (nothing : (m.kept p.profile.variant).entries = []) {before later : List (Event Job)}
    {d t : Nat} {name : String} {r : Except Failure Handle}
    (run : Reaches p.start ⟨m, []⟩ before s)
    (destroyed : s.threads[d]? = some ⟨.destroy h, .done (.destroyed true)⟩)
    (same : h.variant = p.profile.variant)
    (removed : .asks d ⟨.remove name, Except.ok ()⟩ ∈ before)
    (more : Reaches p.start s later s') (new : s.threads.length ≤ t)
    (got : s'.threads[t]? = some ⟨.get h.id, .done (.got r)⟩) :
    (∀ failure, r = .error failure → .asks t ⟨.attach h.id, Except.error failure⟩ ∈ later) ∧
    ∀ g, r = .ok g → ∃ i e, p.KeptBy (before ++ later) i h.id g e ∧
      (Precedes (before ++ later) (.asks d ⟨.remove name, Except.ok ()⟩)
          (.asks i ⟨.attach h.id, Except.ok e⟩) ∨
        Precedes (before ++ later) (.asks i ⟨.attach h.id, Except.ok e⟩)
          (.asks d ⟨.remove name, Except.ok ()⟩) ∧
        Precedes (before ++ later) (.remembers d (.forget h.variant h.id))
          (.remembers i (.keep p.profile.variant h.id g))) := by
  have early := overlapping_of_reaches delegated nothing run
  have late := overlapping_of_reaches delegated nothing (run.trans more)
  have absent : ∀ e ∈ before, e.place? ≠ some t := fun e he place =>
    Nat.not_lt_of_le new (run.place_lt he place)
  have forgot : Precedes before (.remembers d (.forget h.variant h.id))
      (.asks d ⟨.remove name, Except.ok ()⟩) := by
    cases early.underway d _ destroyed with
    | closed silent => exact absurd removed (silent _)
    | removing forgot after steady => exact after _ removed
  have in_later : ∀ e ∈ before ++ later, e.place? = some t → e ∈ later := by
    intro e he place
    exact (List.mem_append.mp he).resolve_left fun he => absent e he place
  cases late.underway t _ got with
  | failed failed =>
    refine ⟨fun failure hr => ?_, fun g hr => (by cases hr)⟩
    cases hr
    exact in_later _ failed rfl
  | made kept =>
    refine ⟨fun failure hr => (by cases hr), fun g hr => ?_⟩
    cases hr
    exact ⟨t, _, kept, .inl (precedes_append removed (in_later _ kept.kept.mem.1 rfl))⟩
  | @known g past rest split kept =>
    refine ⟨fun failure hr => (by cases hr), fun g hr => ?_⟩
    cases hr
    -- The thread looked for the handle after it was started, so all that happened before is past.
    obtain ⟨since, rfl⟩ := exists_eq_append split fun he => absent _ he rfl
    obtain ⟨i, e, keptBy, order⟩ := kept.found_or_overtaken same
      (List.mem_append_left since forgot.mem.1) (List.mem_append_left since removed) (by simp)
    rw [split]
    exact ⟨i, e, keptBy.append _,
      order.imp (·.append _) fun ⟨found, overtaken⟩ => ⟨found.append _, overtaken.append _⟩⟩

/-- In that run the theorem holds of the get that was started last. -/
theorem fresh_or_overtaken_usual :
    let h := usualHandle .created 0
    let g := usualHandle .attached 1
    ∃ before later s s', Reaches usual.start ⟨oneMade, []⟩ before s ∧
      s.threads[1]? = some ⟨.destroy h, .done (.destroyed true)⟩ ∧
      .asks 1 ⟨.remove h.id, Except.ok ()⟩ ∈ before ∧ Reaches usual.start s later s' ∧
      s.threads.length ≤ 2 ∧ s'.threads[2]? = some ⟨.get h.id, .done (.got (.ok g))⟩ ∧
      ∃ i e, usual.KeptBy (before ++ later) i h.id g e ∧
        (Precedes (before ++ later) (.asks 1 ⟨.remove h.id, Except.ok ()⟩)
            (.asks i ⟨.attach h.id, Except.ok e⟩) ∨
          Precedes (before ++ later) (.asks i ⟨.attach h.id, Except.ok e⟩)
            (.asks 1 ⟨.remove h.id, Except.ok ()⟩) ∧
          Precedes (before ++ later) (.remembers 1 (.forget h.variant h.id))
            (.remembers i (.keep usual.profile.variant h.id g))) := by
  intro h g
  obtain ⟨s, s', run, destroyed, places, more, got⟩ := reaches_overtaken
  have new : s.threads.length ≤ 2 := Nat.le_of_eq places
  obtain ⟨-, found⟩ := fresh_or_overtaken usual rfl oneMade rfl run
    destroyed rfl (List.mem_append_right _ (List.mem_singleton_self _)) more new got
  exact ⟨_, _, s, s', run, destroyed, List.mem_append_right _ (List.mem_singleton_self _), more, new,
    got, found g rfl⟩

/-- A get that is started after the removal may be given a handle although no container was found
after it. -/
theorem served_after_removal :
    let h := usualHandle .created 0
    let g := usualHandle .attached 1
    ∃ before later s s', Reaches usual.start ⟨oneMade, []⟩ before s ∧
      s.threads[1]? = some ⟨.destroy h, .done (.destroyed true)⟩ ∧
      .asks 1 ⟨.remove h.id, Except.ok ()⟩ ∈ before ∧ Reaches usual.start s later s' ∧
      s.threads.length ≤ 2 ∧ s'.threads[2]? = some ⟨.get h.id, .done (.got (.ok g))⟩ ∧
      (∀ i id e, .asks i ⟨.attach id, Except.ok e⟩ ∈ before ++ later → e.name = some id) ∧
      ∀ i e, ¬ Precedes (before ++ later) (.asks 1 ⟨.remove h.id, Except.ok ()⟩)
        (.asks i ⟨.attach h.id, Except.ok e⟩) := by
  intro h g
  obtain ⟨s, s', run, destroyed, places, more, got⟩ := reaches_overtaken
  refine ⟨_, _, s, s', run, destroyed, List.mem_append_right _ (List.mem_singleton_self _), more,
    Nat.le_of_eq places, got, ?_, fun i e => ?_⟩
  · intro i id e he
    simp at he
    obtain ⟨-, rfl, rfl⟩ := he
    rfl
  · rw [List.append_assoc]
    refine not_precedes_append ?_ ?_
    · simp
    · simp

end Provider

end Sandboxes
