import Sandboxes.Proofs.Handle.Ending
import Sandboxes.Proofs.Provisioner
import Sandboxes.Proofs.Recent
import Sandboxes.Provider

/-!
# Instances that are kept

A provider is used for a while: sandboxes are made and got by name, and any of them is destroyed, in
any order. The handles that are kept are open and go by their own names, and they are those that were
last got. What is remembered of the past is read off the deeds.
-/

namespace Sandboxes

open Program

/-- Wherever a container was found in the runtime outside, it is the one that was asked for. -/
def Log.Faithful (log : Log) : Prop :=
  ∀ name (e : Container.Endpoint), ⟨.attach name, Except.ok e⟩ ∈ log → e.name = some name

namespace Memory

variable {m : Memory} {v : Variant} {handles : Recent String Handle}

@[simp] lemma kept_setKept : (m.setKept v handles).kept v = handles := by
  cases v <;> rfl

@[simp] lemma setKept_kept : m.setKept v (m.kept v) = m := by
  cases v <;> rfl

lemma kept_congr {m m' : Memory} (legacy : m'.legacy = m.legacy) (aio : m'.aio = m.aio) :
    m'.kept v = m.kept v := by
  cases v with
  | legacy => exact legacy
  | aio => exact aio

lemma kept_empty (handles hosts : Nat) : (empty handles hosts).kept v = .empty handles := by
  cases v <;> rfl

end Memory

namespace Handle

variable {h : Handle} {m : Memory}

@[simp] lemma made_afterClose : (h.afterClose m).made = m.made := by
  simp [afterClose]

@[simp] lemma closed_afterClose : (h.afterClose m).closed = h.number :: m.closed := by
  simp [afterClose]

@[simp] lemma kept_afterClose :
    (h.afterClose m).kept h.variant = (m.kept h.variant).erase h.id := by
  simp only [afterClose, Memory.Step.apply, Memory.kept_setKept]
  exact congrArg (·.erase h.id) (Memory.kept_congr rfl rfl)

lemma steady_tearDown : h.tearDown.Steady :=
  steady_of_confined confined_tearDown

end Handle

/-- A container that is found goes by the name that was asked for. -/
lemma Provisioner.name_of_runs_attach {p : Provisioner} {name : String} {m m' : Memory} {log : Log}
    {e : Container.Endpoint} (faithful : log.Faithful)
    (run : (p.attach name).Runs m log (.ok e) m') : e.name = some name := by
  cases p with
  | delegated =>
    obtain ⟨rfl, -⟩ := runs_query.mp run
    exact faithful name e (List.mem_singleton.mpr rfl)
  | docker =>
    rcases runs_except_bind.mp run with ⟨_, _, _, _, -, h, -⟩ | ⟨_, -, h⟩
    · rcases runs_except_bind.mp h with ⟨_, _, _, _, -, h, -⟩ | ⟨_, -, h⟩
      · obtain ⟨-, h, -⟩ := runs_except_pure.mp h
        cases h
        rfl
      · cases h
    · cases h
  | fixed address =>
    obtain ⟨host, -, h⟩ := runs_bind_pure.mp run
    cases h
    rfl

namespace Provider

variable {p : Provider} {id : String} {h : Handle} {m m' : Memory} {log : Log}
  {r : Except Failure Handle}

/-! ### Single operations -/

lemma runs_get_kept (hit : (m.kept p.profile.variant).find? id = some h) :
    (p.get id).Runs m log r m' ↔ log = [] ∧ r = .ok h ∧
      m' = m.setKept p.profile.variant ((m.kept p.profile.variant).touch id) := by
  simp only [get, runs_bind, runs_step, Memory.Step.apply, hit]
  constructor
  · rintro ⟨_, _, _, _, ⟨rfl, rfl, rfl⟩, run, rfl⟩
    simpa using run
  · rintro ⟨rfl, rfl, rfl⟩
    exact ⟨[], _, _, [], ⟨rfl, rfl, rfl⟩, by simp, rfl⟩

/-- The memory after a handle was made, and kept for a name. -/
def remembering (p : Provider) (m : Memory) (id : String) (h : Handle) : Memory :=
  { m with made := m.made + 1 }.setKept p.profile.variant
    ((m.kept p.profile.variant).insert id h)

@[simp] lemma kept_remembering {addresses : Recent String (Option Ipv4)} :
    (p.remembering { m with addresses } id h).kept p.profile.variant =
      (m.kept p.profile.variant).insert id h := by
  rw [remembering, Memory.kept_setKept]
  exact congrArg (·.insert id h) (Memory.kept_congr rfl rfl)

lemma of_runs_get_new (miss : (m.kept p.profile.variant).find? id = none)
    (run : (p.get id).Runs m log r m') :
    ∃ out addresses, (p.provisioner.attach id).Runs m log out { m with addresses } ∧
      ((∃ failure, out = .error failure ∧ r = .error failure ∧ m' = { m with addresses }) ∨
        ∃ e, out = .ok e ∧ r = .ok (.ofEndpoint p.profile p.provisioner e m.made) ∧
          m' = p.remembering { m with addresses } id
            (.ofEndpoint p.profile p.provisioner e m.made)) := by
  obtain ⟨_, found, _, _, hfind, hmiss, rfl⟩ := runs_bind.mp run
  obtain ⟨rfl, rfl, rfl⟩ := runs_step.mp hfind
  simp only [Memory.Step.apply, miss, Recent.touch_of_find?_eq_none miss,
    Memory.setKept_kept] at hmiss
  obtain ⟨log₁, out, m₁, log₂, hattach, hrest, rfl⟩ := runs_bind.mp hmiss
  obtain ⟨addresses, rfl⟩ := (p.provisioner.steady_attach id).exists_addresses hattach
  cases out with
  | error failure =>
    obtain ⟨rfl, rfl, rfl⟩ := runs_pure.mp hrest
    exact ⟨_, addresses, by simpa using hattach, .inl ⟨failure, rfl, rfl, rfl⟩⟩
  | ok e =>
    obtain ⟨_, h, m₂, _, hnew, hkeep, rfl⟩ := runs_bind.mp hrest
    obtain ⟨rfl, rfl, rfl⟩ := Handle.runs_new.mp hnew
    obtain ⟨_, _, _, _, hstep, hend, rfl⟩ := runs_bind.mp hkeep
    obtain ⟨rfl, -, rfl⟩ := runs_step.mp hstep
    obtain ⟨rfl, rfl, rfl⟩ := runs_pure.mp hend
    refine ⟨_, addresses, by simpa using hattach, .inr ⟨e, rfl, rfl, ?_⟩⟩
    cases hv : p.profile.variant <;> simp [remembering, Memory.Step.apply, Memory.kept, hv]

/-- Getting a sandbox asks for nothing but its container. -/
lemma confined_get : (p.get id).Confined Query.Provisions fun _ => True := by
  refine Confined.bind (confined_step.mpr trivial) fun found => ?_
  cases found with
  | some handle => exact .done _
  | none =>
    refine Confined.bind ((p.provisioner.confined_attach id).mono (fun _ h => h) fun _ _ => trivial)
      fun out => ?_
    cases out with
    | error failure => exact .done _
    | ok e =>
      refine Confined.bind (Confined.bind_pure (confined_step.mpr trivial)) fun handle => ?_
      exact Confined.bind (confined_step.mpr trivial) fun _ => .done _

/-- Launching a container for a number that was drawn. -/
def launching (p : Provider) (number : UInt32) : Program (Except Failure Container.Endpoint) :=
  p.provisioner.launch (p.profile.template.instantiate (p.profile.containerName number))

/-- Making a sandbox draws a number and launches a container, and makes a handle if that succeeds. -/
lemma launched_of_runs_create (run : p.create.Runs m log r m') :
    ∃ number launch launched addresses,
      (p.launching number).Runs m launch launched { m with addresses } ∧
      log = ⟨.draw, number⟩ :: launch ∧
      ((∃ failure, launched = .error failure ∧ r = .error failure ∧ m' = { m with addresses }) ∨
        ∃ e, launched = .ok e ∧ r = .ok (.ofEndpoint p.profile p.provisioner e m.made) ∧
          m' = { m with addresses, made := m.made + 1 }) := by
  obtain ⟨_, number, _, log₁, hdraw, hrest, rfl⟩ := runs_bind.mp run
  obtain ⟨rfl, rfl⟩ := runs_query.mp hdraw
  obtain ⟨log₂, out, m₁, log₃, hlaunch, hend, rfl⟩ := runs_bind.mp hrest
  obtain ⟨addresses, rfl⟩ := (p.provisioner.steady_launch _).exists_addresses hlaunch
  cases out with
  | error failure =>
    obtain ⟨rfl, rfl, rfl⟩ := runs_pure.mp hend
    exact ⟨number, log₂, _, addresses, hlaunch, by simp, .inl ⟨failure, rfl, rfl, rfl⟩⟩
  | ok e =>
    obtain ⟨_, hnew, rfl⟩ := runs_bind_pure.mp hend
    obtain ⟨rfl, rfl, rfl⟩ := Handle.runs_new.mp hnew
    exact ⟨number, log₂, _, addresses, hlaunch, by simp, .inr ⟨e, rfl, rfl, rfl⟩⟩

lemma of_runs_create (run : p.create.Runs m log r m') :
    ∃ addresses, (∃ failure, r = .error failure ∧ m' = { m with addresses }) ∨
      ∃ e, r = .ok (.ofEndpoint p.profile p.provisioner e m.made) ∧
        m' = { m with addresses, made := m.made + 1 } := by
  obtain ⟨number, launch, launched, addresses, -, -, ⟨failure, -, hr, hm⟩ | ⟨e, -, hr, hm⟩⟩ :=
    launched_of_runs_create run
  · exact ⟨addresses, .inl ⟨failure, hr, hm⟩⟩
  · exact ⟨addresses, .inr ⟨e, hr, hm⟩⟩

/-- Making a sandbox keeps the same handles. -/
lemma kept_of_runs_create (run : p.create.Runs m log r m') (v : Variant) :
    m'.kept v = m.kept v := by
  obtain ⟨addresses, ⟨failure, -, rfl⟩ | ⟨e, -, rfl⟩⟩ := of_runs_create run
  · exact Memory.kept_congr rfl rfl
  · exact Memory.kept_congr rfl rfl

/-- Destroying a handle forgets the one that is kept for its name, the first time. -/
lemma kept_of_runs_destroy {done : Bool} (run : h.destroy.Runs m log done m') :
    m'.kept h.variant = if h.number ∈ m.closed then m.kept h.variant
      else (m.kept h.variant).erase h.id := by
  split
  case isTrue closed =>
    obtain ⟨-, -, rfl⟩ := (Handle.runs_destroy_closed closed).mp run
    exact Memory.kept_congr rfl rfl
  case isFalse opened =>
    rw [Handle.runs_destroy_open opened] at run
    obtain ⟨addresses, rfl⟩ := Handle.steady_tearDown.exists_addresses run
    rw [← Handle.kept_afterClose]
    exact Memory.kept_congr rfl rfl

/-! ### Deeds -/

/-- What was done with a provider, what it exchanged and what came of it. -/
inductive Deed
  | created (log : Log) (r : Except Failure Handle)
  | got (id : String) (log : Log) (r : Except Failure Handle)
  | destroyed (h : Handle) (log : Log) (done : Bool)

namespace Deed

/-- What was exchanged. -/
def exchanged : Deed → Log
  | created log _ | got _ log _ | destroyed _ log _ => log

/-- The handle that was obtained. -/
def handle? : Deed → Option Handle
  | created _ (.ok h) | got _ _ (.ok h) => some h
  | _ => none

/-- The name that a handle was got for. -/
def id? : Deed → Option String
  | got id _ (.ok _) => some id
  | _ => none

end Deed

variable {d : Deed} {ds between before : List Deed}

/-- All handles that were obtained, of deeds with the latest first. -/
def obtained (ds : List Deed) : List Handle :=
  ds.filterMap Deed.handle?

/-- The names for which a handle was got, the last got one first. -/
def gotIds : List Deed → List String
  | [] => []
  | d :: ds =>
    match d.id? with
    | some id => used id (gotIds ds)
    | none => gotIds ds

/-- The handle was destroyed. -/
def Destroyed (h : Handle) (ds : List Deed) : Prop :=
  ∃ log done, .destroyed h log done ∈ ds

/-- The deeds that a provider can come to from a memory, the latest first, and the memory after
them. Only handles that were obtained are destroyed. -/
inductive Course (p : Provider) (start : Memory) : List Deed → Memory → Prop
  | start : Course p start [] start
  | create {ds : List Deed} {m m' : Memory} {log : Log} {r : Except Failure Handle}
      (before : Course p start ds m) (run : p.create.Runs m log r m') :
      Course p start (.created log r :: ds) m'
  | get {ds : List Deed} {m m' : Memory} {log : Log} {r : Except Failure Handle} {id : String}
      (before : Course p start ds m) (run : (p.get id).Runs m log r m') :
      Course p start (.got id log r :: ds) m'
  | destroy {ds : List Deed} {m m' : Memory} {log : Log} {done : Bool} {h : Handle}
      (before : Course p start ds m) (mem : h ∈ obtained ds) (run : h.destroy.Runs m log done m') :
      Course p start (.destroyed h log done :: ds) m'

lemma nodup_gotIds : (gotIds ds).Nodup := by
  induction ds with
  | nil => exact List.nodup_nil
  | cons d ds ih =>
    unfold gotIds
    split
    · exact nodup_used ih
    · exact ih

section Destroyed

variable {g : Handle} {done : Bool}

@[simp] lemma destroyed_created : Destroyed g (.created log r :: ds) ↔ Destroyed g ds := by
  simp [Destroyed]

@[simp] lemma destroyed_got : Destroyed g (.got id log r :: ds) ↔ Destroyed g ds := by
  simp [Destroyed]

@[simp] lemma destroyed_destroyed :
    Destroyed g (.destroyed h log done :: ds) ↔ g = h ∨ Destroyed g ds := by
  simp only [Destroyed, List.mem_cons, Deed.destroyed.injEq]
  constructor
  · rintro ⟨log', done', ⟨rfl, -, -⟩ | hd⟩
    · exact .inl rfl
    · exact .inr ⟨log', done', hd⟩
  · rintro (rfl | ⟨log', done', hd⟩)
    · exact ⟨log, done, .inl ⟨rfl, rfl, rfl⟩⟩
    · exact ⟨log', done', .inr hd⟩

lemma mem_obtained_cons (hg : g ∈ obtained ds) : g ∈ obtained (d :: ds) := by
  obtain ⟨d', hd, hg⟩ := List.mem_filterMap.mp hg
  exact List.mem_filterMap.mpr ⟨d', List.mem_cons_of_mem d hd, hg⟩

end Destroyed

/-! ### What holds of the handles -/

/-- The handles that were obtained are told apart by their numbers, and those that are closed are
those that were destroyed. -/
structure Roster (p : Provider) (ds : List Deed) (m : Memory) : Prop where
  numbered : m.Numbered
  made : ∀ h ∈ obtained ds, h.variant = p.profile.variant ∧ h.number < m.made
  distinct : ∀ h ∈ obtained ds, ∀ g ∈ obtained ds, h.number = g.number → h = g
  closed : ∀ h ∈ obtained ds, h.number ∈ m.closed ↔ Destroyed h ds
  known : ∀ h, Destroyed h ds → h ∈ obtained ds

/-- Nothing new is obtained, and nothing destroyed. -/
lemma Roster.same (inv : p.Roster ds m) (mem : ∀ h, h ∈ obtained (d :: ds) → h ∈ obtained ds)
    (gone : ∀ h, Destroyed h (d :: ds) ↔ Destroyed h ds) (made : m'.made = m.made)
    (closed : m'.closed = m.closed) : p.Roster (d :: ds) m' where
  numbered := by
    rw [Memory.Numbered, closed, made]
    exact inv.numbered
  made h hh := by
    rw [made]
    exact inv.made h (mem h hh)
  distinct h hh g hg := inv.distinct h (mem h hh) g (mem g hg)
  closed h hh := by
    rw [closed, gone]
    exact inv.closed h (mem h hh)
  known h hh := mem_obtained_cons (inv.known h ((gone h).mp hh))

/-- A handle with the next number is obtained. -/
lemma Roster.new (inv : p.Roster ds m) (new : obtained (d :: ds) = h :: obtained ds)
    (gone : ∀ h, Destroyed h (d :: ds) ↔ Destroyed h ds) (variant : h.variant = p.profile.variant)
    (number : h.number = m.made) (made : m'.made = m.made + 1) (closed : m'.closed = m.closed) :
    p.Roster (d :: ds) m' where
  numbered n hn := by
    rw [closed] at hn
    rw [made]
    exact Nat.lt_succ_of_lt (inv.numbered n hn)
  made g hg := by
    rw [new, List.mem_cons] at hg
    rw [made]
    rcases hg with rfl | hg
    · exact ⟨variant, by omega⟩
    · exact ⟨(inv.made g hg).1, Nat.lt_succ_of_lt (inv.made g hg).2⟩
  distinct g hg k hk hgk := by
    rw [new, List.mem_cons] at hg hk
    rcases hg with rfl | hg <;> rcases hk with rfl | hk
    · rfl
    · have := (inv.made k hk).2
      omega
    · have := (inv.made g hg).2
      omega
    · exact inv.distinct g hg k hk hgk
  closed g hg := by
    rw [new, List.mem_cons] at hg
    rw [closed, gone]
    rcases hg with rfl | hg
    · rw [number]
      refine iff_of_false inv.numbered.made_not_mem fun hd => ?_
      have := (inv.made g (inv.known g hd)).2
      omega
    · exact inv.closed g hg
  known g hg := mem_obtained_cons (inv.known g ((gone g).mp hg))

/-- A handle that was obtained is destroyed. -/
lemma Roster.destroy {done : Bool} (inv : p.Roster ds m) (mem : h ∈ obtained ds)
    (made : m'.made = m.made) (closed : ∀ n, n ∈ m'.closed ↔ n = h.number ∨ n ∈ m.closed) :
    p.Roster (.destroyed h log done :: ds) m' where
  numbered n hn := by
    rw [made]
    rcases (closed n).mp hn with rfl | hn
    · exact (inv.made h mem).2
    · exact inv.numbered n hn
  made g hg := by
    rw [made]
    exact inv.made g hg
  distinct := inv.distinct
  closed g hg := by
    rw [closed, destroyed_destroyed, inv.closed g hg]
    constructor
    · rintro (hn | hd)
      · exact .inl (inv.distinct g hg h mem hn)
      · exact .inr hd
    · rintro (rfl | hd)
      · exact .inl rfl
      · exact .inr hd
  known g hg := by
    rcases destroyed_destroyed.mp hg with rfl | hg
    · exact mem
    · exact inv.known g hg

/-- What holds of the memory of a provider with room for so many handles. The handles that are kept
are open and go by their own names, and are those that were last got, in that order. -/
structure Instances (p : Provider) (room : Nat) (ds : List Deed) (m : Memory) : Prop where
  roster : p.Roster ds m
  capacity : (m.kept p.profile.variant).capacity = room
  valid : (m.kept p.profile.variant).Valid
  order : (m.kept p.profile.variant).keys.Sublist (gotIds ds)
  entries : ∀ x ∈ (m.kept p.profile.variant).entries,
    x.2.id = x.1 ∧ x.2 ∈ obtained ds ∧ x.2.number ∉ m.closed

variable {room : Nat}

/-- The same handles are kept as before, and none is closed. -/
lemma Instances.same_kept (inv : p.Instances room ds m) (roster : p.Roster (d :: ds) m')
    (got : gotIds (d :: ds) = gotIds ds)
    (kept : m'.kept p.profile.variant = m.kept p.profile.variant)
    (opened : ∀ n, n ∉ m.closed → n ∈ m'.closed → ∀ x ∈ (m.kept p.profile.variant).entries,
      x.2.number ≠ n) : p.Instances room (d :: ds) m' where
  roster := roster
  capacity := by rw [kept, inv.capacity]
  valid := by
    rw [kept]
    exact inv.valid
  order := by
    rw [kept, got]
    exact inv.order
  entries x hx := by
    rw [kept] at hx
    obtain ⟨hid, mem, hopen⟩ := inv.entries x hx
    exact ⟨hid, mem_obtained_cons mem, fun hc => opened _ hopen hc x hx rfl⟩

lemma Instances.create (inv : p.Instances room ds m) (run : p.create.Runs m log r m') :
    p.Instances room (.created log r :: ds) m' := by
  have kept := kept_of_runs_create run p.profile.variant
  obtain ⟨addresses, ⟨failure, rfl, rfl⟩ | ⟨e, rfl, rfl⟩⟩ := of_runs_create run
  · refine inv.same_kept ?_ rfl kept fun n hn hn' => absurd hn' hn
    exact inv.roster.same (fun _ hh => hh) (fun _ => destroyed_created) rfl rfl
  · refine inv.same_kept ?_ rfl kept fun n hn hn' => absurd hn' hn
    exact inv.roster.new rfl (fun _ => destroyed_created) rfl rfl rfl rfl

/-- A handle that is kept is got again, and becomes the last got one. -/
lemma Instances.get_kept (inv : p.Instances room ds m)
    (hit : (m.kept p.profile.variant).find? id = some h) :
    p.Instances room (.got id log (.ok h) :: ds)
      (m.setKept p.profile.variant ((m.kept p.profile.variant).touch id)) := by
  have mem := (inv.entries _ (Recent.mem_entries_of_find? hit)).2.1
  refine ⟨?_, ?_, ?_, ?_, fun x hx => ?_⟩
  · refine inv.roster.same (fun g hg => ?_) (fun _ => destroyed_got) (by simp) (by simp)
    rcases List.mem_cons.mp hg with rfl | hg
    · exact mem
    · exact hg
  · simp [inv.capacity]
  · rw [Memory.kept_setKept]
    exact inv.valid.touch
  · rw [Memory.kept_setKept, Recent.keys_touch hit]
    exact sublist_used inv.order
  · rw [Memory.kept_setKept] at hx
    obtain ⟨hid, mem, opened⟩ := inv.entries x (Recent.mem_entries_touch hx)
    exact ⟨hid, mem_obtained_cons mem, by simpa using opened⟩

/-- A new handle is kept for the name that it goes by. -/
lemma Instances.get_new (inv : p.Instances room ds m) {addresses : Recent String (Option Ipv4)}
    (hid : h.id = id) (variant : h.variant = p.profile.variant) (number : h.number = m.made) :
    p.Instances room (.got id log (.ok h) :: ds) (p.remembering { m with addresses } id h) := by
  refine ⟨?_, ?_, ?_, ?_, fun x hx => ?_⟩
  · exact inv.roster.new rfl (fun _ => destroyed_got) variant number (by simp [remembering])
      (by simp [remembering])
  · rw [kept_remembering, Recent.capacity_insert, inv.capacity]
  · rw [kept_remembering]
    exact inv.valid.insert
  · rw [kept_remembering, Recent.keys_insert]
    exact (List.take_sublist _ _).trans (sublist_used inv.order)
  · rw [kept_remembering] at hx
    have closed : (p.remembering { m with addresses } id h).closed = m.closed := by
      simp [remembering]
    rw [closed]
    rcases Recent.mem_entries_insert hx with rfl | hx
    · refine ⟨hid, List.mem_cons_self, ?_⟩
      rw [number]
      exact inv.roster.numbered.made_not_mem
    · obtain ⟨hid, mem, opened⟩ := inv.entries x hx
      exact ⟨hid, mem_obtained_cons mem, opened⟩

lemma Instances.get (inv : p.Instances room ds m) (faithful : log.Faithful)
    (run : (p.get id).Runs m log r m') : p.Instances room (.got id log r :: ds) m' := by
  cases hf : (m.kept p.profile.variant).find? id with
  | some h =>
    obtain ⟨rfl, rfl, rfl⟩ := (runs_get_kept hf).mp run
    exact inv.get_kept hf
  | none =>
    obtain ⟨out, addresses, hattach, ⟨failure, rfl, rfl, rfl⟩ | ⟨e, rfl, rfl, rfl⟩⟩ :=
      of_runs_get_new hf run
    · refine inv.same_kept ?_ rfl (Memory.kept_congr rfl rfl) fun n hn hn' => absurd hn' hn
      exact inv.roster.same (fun _ hh => hh) (fun _ => destroyed_got) rfl rfl
    · have name := Provisioner.name_of_runs_attach faithful hattach
      exact inv.get_new (by simp [Handle.ofEndpoint, name]) rfl rfl

/-- Destroying a closed handle changes nothing; destroying an open one forgets the handle that is kept
for its name. -/
lemma Instances.destroy {done : Bool} (inv : p.Instances room ds m) (mem : h ∈ obtained ds)
    (run : h.destroy.Runs m log done m') : p.Instances room (.destroyed h log done :: ds) m' := by
  have kept := kept_of_runs_destroy run
  rw [(inv.roster.made h mem).1] at kept
  by_cases closed : h.number ∈ m.closed
  · rw [if_pos closed] at kept
    obtain ⟨rfl, rfl, rfl⟩ := (Handle.runs_destroy_closed closed).mp run
    refine inv.same_kept ?_ rfl kept fun n hn hn' => ?_
    · exact inv.roster.destroy mem rfl fun n => by simp
    · rcases List.mem_cons.mp hn' with rfl | hn'
      · exact absurd closed hn
      · exact absurd hn' hn
  · rw [if_neg closed] at kept
    rw [Handle.runs_destroy_open closed] at run
    obtain ⟨addresses, rfl⟩ := Handle.steady_tearDown.exists_addresses run
    refine ⟨?_, ?_, ?_, ?_, fun x hx => ?_⟩
    · exact inv.roster.destroy mem (by simp) (by simp)
    · rw [kept, Recent.capacity_erase, inv.capacity]
    · rw [kept]
      exact inv.valid.erase
    · rw [kept, Recent.keys_erase]
      exact List.filter_sublist.trans inv.order
    · rw [kept] at hx
      obtain ⟨hx, other⟩ := Recent.mem_entries_erase.mp hx
      obtain ⟨hid, known, opened⟩ := inv.entries x hx
      refine ⟨hid, mem_obtained_cons known, ?_⟩
      -- the handle itself is kept for its own name only, which is forgotten
      have different : x.2.number ≠ h.number := fun same =>
        other (hid ▸ congrArg Handle.id (inv.roster.distinct _ known h mem same))
      simp [different, opened]

/-- What holds of the memory of a provider, in every state that it can come to. -/
lemma instances_of_course {capacity hosts : Nat} (course : p.Course (.empty capacity hosts) ds m)
    (faithful : ∀ d ∈ ds, d.exchanged.Faithful) : p.Instances (max 1 capacity) ds m := by
  induction course with
  | start =>
    refine ⟨⟨Memory.numbered_empty _ _, ?_, ?_, ?_, ?_⟩, ?_, ?_, ?_, ?_⟩
    · intro h hh
      cases hh
    · intro h hh
      cases hh
    · intro h hh
      cases hh
    · rintro h ⟨_, _, hd⟩
      cases hd
    · rw [Memory.kept_empty]
      rfl
    · rw [Memory.kept_empty]
      exact Recent.valid_empty capacity
    · rw [Memory.kept_empty]
      exact List.Sublist.refl _
    · rw [Memory.kept_empty]
      intro x hx
      cases hx
  | create _ run ih => exact (ih fun d hd => faithful d (List.mem_cons_of_mem _ hd)).create run
  | get _ run ih =>
    exact (ih fun d hd => faithful d (List.mem_cons_of_mem _ hd)).get
      (faithful _ List.mem_cons_self) run
  | destroy _ mem run ih =>
    exact (ih fun d hd => faithful d (List.mem_cons_of_mem _ hd)).destroy mem run

end Provider

end Sandboxes
