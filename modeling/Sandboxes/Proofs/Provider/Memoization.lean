import Sandboxes.Proofs.Provider.Instances

/-!
# Getting the same handle again

A handle that was got by name is got again without anything being asked, unless it was destroyed in
between, or so many other names were got that there was no more room for it.
-/

namespace Sandboxes.Provider

open Program

variable {p : Provider} {id : String} {h : Handle} {m m' : Memory} {log : Log}
  {r : Except Failure Handle} {d : Deed} {ds between before : List Deed}

/-- Between some deeds and now, no open handle of that name was destroyed. -/
def Undisturbed (id : String) (before : List Deed) : List Deed → Prop
  | [] => True
  | d :: between =>
    Undisturbed id before between ∧
      ∀ h log done, d = .destroyed h log done → h.id = id → Destroyed h (between ++ before)

/-- The other names for which a handle was got, the last got one first. -/
def othersGot (id : String) (between : List Deed) : List String :=
  (gotIds between).filter (· ≠ id)

lemma length_othersGot_le_cons :
    (othersGot id between).length ≤ (othersGot id (d :: between)).length := by
  simp only [othersGot, gotIds]
  split
  case h_1 k _ =>
    by_cases hk : k = id
    · subst hk
      exact Nat.le_of_eq (congrArg List.length filter_used_self.symm)
    · rw [filter_used_of_ne hk]
      exact length_le_used (nodup_gotIds.filter _)
  case h_2 => exact Nat.le_refl _

lemma not_mem_othersGot : id ∉ othersGot id between := by
  simp [othersGot]

lemma othersGot_of_ne {k : String} {g : Handle} (ne : k ≠ id) :
    othersGot id (.got k log (.ok g) :: between) = used k (othersGot id between) :=
  filter_used_of_ne ne

/-- Getting some handle keeps the others, while there is room. -/
lemma holds_of_runs_get {k : String}
    (holds : (m.kept p.profile.variant).Holds id h (othersGot id between))
    (few : (othersGot id (.got k log r :: between)).length < (m.kept p.profile.variant).capacity)
    (run : (p.get k).Runs m log r m') :
    (m'.kept p.profile.variant).Holds id h (othersGot id (.got k log r :: between)) := by
  have hit := holds.find? not_mem_othersGot
  by_cases hk : k = id
  · subst hk
    obtain ⟨rfl, rfl, rfl⟩ := (runs_get_kept hit).mp run
    rw [Memory.kept_setKept]
    exact (Recent.holds_touch_self hit).mono (List.nil_sublist _)
  · cases hf : (m.kept p.profile.variant).find? k with
    | some g =>
      obtain ⟨rfl, rfl, rfl⟩ := (runs_get_kept hf).mp run
      rw [Memory.kept_setKept, othersGot_of_ne hk]
      exact holds.touch hk
    | none =>
      obtain ⟨out, addresses, -, ⟨failure, -, rfl, rfl⟩ | ⟨e, -, rfl, rfl⟩⟩ := of_runs_get_new hf run
      · rw [Memory.kept_congr rfl rfl]
        exact holds
      · rw [othersGot_of_ne hk] at few ⊢
        rw [kept_remembering]
        exact holds.insert hk few

/-- A handle that was got is kept, and the handles that were got later are among the others that were
got since. -/
lemma holds_of_course {capacity hosts : Nat} {l : Log}
    (course : p.Course (.empty capacity hosts) (between ++ .got id l (.ok h) :: before) m)
    (faithful : ∀ d ∈ between ++ .got id l (.ok h) :: before, d.exchanged.Faithful)
    (undisturbed : Undisturbed id (.got id l (.ok h) :: before) between)
    (room : (othersGot id between).length < max 1 capacity) :
    (m.kept p.profile.variant).Holds id h (othersGot id between) := by
  induction between generalizing m with
  | nil =>
    cases course with
    | @get _ m₀ _ _ _ _ course run =>
      have inv := instances_of_course course fun d hd => faithful d (List.mem_cons_of_mem _ hd)
      cases hf : (m₀.kept p.profile.variant).find? id with
      | some g =>
        obtain ⟨-, hg, rfl⟩ := (runs_get_kept hf).mp run
        cases hg
        rw [Memory.kept_setKept]
        exact Recent.holds_touch_self hf
      | none =>
        obtain ⟨out, addresses, -, ⟨failure, -, hr, -⟩ | ⟨e, -, hr, rfl⟩⟩ := of_runs_get_new hf run
        · cases hr
        · cases hr
          rw [kept_remembering]
          exact Recent.holds_insert_self inv.valid
  | cons d between ih =>
    have few := Nat.lt_of_le_of_lt (length_othersGot_le_cons (d := d)) room
    have faithful' : ∀ d ∈ between ++ .got id l (.ok h) :: before, d.exchanged.Faithful :=
      fun d hd => faithful d (List.mem_cons_of_mem _ hd)
    cases course with
    | create course run =>
      rw [kept_of_runs_create run]
      exact ih course faithful' undisturbed.1 few
    | @get _ m₀ _ log r k course run =>
      have inv := instances_of_course course faithful'
      refine holds_of_runs_get (ih course faithful' undisturbed.1 few) ?_ run
      rw [inv.capacity]
      exact room
    | @destroy _ m₀ _ log done g course mem run =>
      have holds := ih course faithful' undisturbed.1 few
      have inv := instances_of_course course faithful'
      have kept := kept_of_runs_destroy run
      rw [(inv.roster.made g mem).1] at kept
      rw [kept]
      split
      case isTrue closed => exact holds
      case isFalse opened =>
        refine holds.erase fun hid => opened ?_
        exact (inv.roster.closed g mem).mpr (undisturbed.2 g log done rfl hid)

/-! ### Every state -/

/-- What getting by name does in a state, of a provider with room for so many handles. A handle that
is kept is given without anything being asked. Otherwise the container is looked for; where that fails
the same handles are kept as before, and where it succeeds, the new handle comes first and, if there
was no more room, only the handle that was got the longest ago goes. -/
structure Gets (p : Provider) (room : Nat) (m : Memory) (id : String) (log : Log)
    (r : Except Failure Handle) (m' : Memory) : Prop where
  kept : id ∈ (m.kept p.profile.variant).keys →
    log = [] ∧ (∃ g, (id, g) ∈ (m.kept p.profile.variant).entries ∧ r = .ok g) ∧
      (m'.kept p.profile.variant).keys = used id (m.kept p.profile.variant).keys
  new : id ∉ (m.kept p.profile.variant).keys →
    ∃ out m₁, (p.provisioner.attach id).Runs m log out m₁ ∧
      (p.provisioner = .delegated → log = [⟨.attach id, out⟩]) ∧
      (∀ failure, out = .error failure →
        r = .error failure ∧ m'.kept p.profile.variant = m.kept p.profile.variant) ∧
      ∀ e, out = .ok e → ∃ g, r = .ok g ∧ (m'.kept p.profile.variant).entries =
        (id, g) :: if (m.kept p.profile.variant).size < room then
          (m.kept p.profile.variant).entries
        else (m.kept p.profile.variant).entries.dropLast

variable {room : Nat}

lemma Instances.gets (inv : p.Instances room ds m) (run : (p.get id).Runs m log r m') :
    p.Gets room m id log r m' where
  kept hid := by
    obtain ⟨g, hit⟩ : ∃ g, (m.kept p.profile.variant).find? id = some g := by
      refine Option.ne_none_iff_exists'.mp fun miss => ?_
      exact Recent.find?_eq_none.mp miss hid
    obtain ⟨rfl, rfl, rfl⟩ := (runs_get_kept hit).mp run
    refine ⟨rfl, ⟨g, Recent.mem_entries_of_find? hit, rfl⟩, ?_⟩
    rw [Memory.kept_setKept, Recent.keys_touch hit]
  new hid := by
    obtain ⟨out, addresses, hattach, result⟩ := of_runs_get_new (Recent.find?_eq_none.mpr hid) run
    refine ⟨out, _, hattach, fun delegated => ?_, ?_, ?_⟩
    · rw [delegated] at hattach
      exact (runs_query.mp hattach).1
    · rintro failure rfl
      obtain ⟨_, hout, rfl, rfl⟩ | ⟨_, hout, -, -⟩ := result
      · cases hout
        exact ⟨rfl, Memory.kept_congr rfl rfl⟩
      · cases hout
    · rintro e rfl
      obtain ⟨_, hout, -, -⟩ | ⟨_, hout, rfl, rfl⟩ := result
      · cases hout
      · cases hout
        refine ⟨_, rfl, ?_⟩
        rw [kept_remembering, inv.valid.entries_insert hid, inv.capacity]

/-- No handle is given that is closed, or was destroyed before. -/
lemma Instances.opened_of_runs_get (inv : p.Instances room ds m)
    (run : (p.get id).Runs m log (.ok h) m') : h.number ∉ m'.closed ∧ ¬ Destroyed h ds := by
  cases hf : (m.kept p.profile.variant).find? id with
  | some g =>
    obtain ⟨rfl, hg, rfl⟩ := (runs_get_kept hf).mp run
    cases hg
    obtain ⟨-, mem, opened⟩ := inv.entries _ (Recent.mem_entries_of_find? hf)
    exact ⟨by simpa using opened, mt (inv.roster.closed h mem).mpr opened⟩
  | none =>
    obtain ⟨out, addresses, -, ⟨failure, -, hr, -⟩ | ⟨e, -, hr, rfl⟩⟩ := of_runs_get_new hf run
    · cases hr
    · cases hr
      refine ⟨by simpa [remembering, Handle.ofEndpoint] using inv.roster.numbered.made_not_mem,
        fun gone => ?_⟩
      exact Nat.lt_irrefl _ (inv.roster.made _ (inv.roster.known _ gone)).2

/-- In every state that a provider can come to, where containers are found by the names that are
asked for: at most `capacity` handles are kept, or one, under different names, in the order in which
they were last got; each goes by its name, is open and was never destroyed. Getting by name then does
what `Gets` says, and never gives a handle that was destroyed. It gives the handle that was got the
last time, without anything being asked, if no open handle of that name was destroyed since and fewer
other names were got than there is room. -/
theorem gets_of_course (p : Provider) (capacity hosts : Nat)
    (course : p.Course (.empty capacity hosts) ds m)
    (faithful : ∀ d ∈ ds, d.exchanged.Faithful) :
    let cache := m.kept p.profile.variant
    (cache.capacity = max 1 capacity ∧ cache.size ≤ max 1 capacity ∧ cache.keys.Nodup ∧
      cache.keys.Sublist (gotIds ds) ∧
      ∀ k g, (k, g) ∈ cache.entries → g.id = k ∧ g.number ∉ m.closed ∧ ¬ Destroyed g ds) ∧
    ∀ id log r m', (p.get id).Runs m log r m' →
      p.Gets (max 1 capacity) m id log r m' ∧
      (∀ g, r = .ok g → g.number ∉ m'.closed ∧ ¬ Destroyed g ds) ∧
      ∀ between before l h, ds = between ++ .got id l (.ok h) :: before →
        Undisturbed id (.got id l (.ok h) :: before) between →
        (othersGot id between).length < max 1 capacity → log = [] ∧ r = .ok h := by
  have inv := instances_of_course course faithful
  refine ⟨⟨inv.capacity, inv.capacity ▸ inv.valid.size_le, inv.valid.nodup, inv.order,
    fun k g hg => ?_⟩, fun id log r m' run => ⟨inv.gets run, ?_, ?_⟩⟩
  · obtain ⟨hid, mem, opened⟩ := inv.entries _ hg
    exact ⟨hid, opened, mt (inv.roster.closed g mem).mpr opened⟩
  · rintro g rfl
    exact inv.opened_of_runs_get run
  · rintro between before l h rfl undisturbed room
    have hit := (holds_of_course course faithful undisturbed room).find? not_mem_othersGot
    obtain ⟨hlog, hr, -⟩ := (runs_get_kept hit).mp run
    exact ⟨hlog, hr⟩

/-- A runtime outside that finds every container. -/
def finding : Log → (q : Query) → q.Reply
  | _, .attach name => Except.ok ⟨some name, "10.0.0.7", .attached⟩
  | _, _ => default

/-- With room for one handle, a handle is got twice by its name. -/
theorem gets_of_course_twice :
    let p : Provider := ⟨.aio .usual, .delegated⟩
    ∃ l h m, (p.get "web").Runs (.empty 0 4) l (.ok h) m ∧
      ∀ log r m', (p.get "web").Runs m log r m' → log = [] ∧ r = .ok h := by
  intro p
  let e : Container.Endpoint := ⟨some "web", "10.0.0.7", .attached⟩
  let found : Log := [⟨.attach "web", Except.ok e⟩]
  have run : (p.get "web").Runs (.empty 0 4) found (.ok (.ofEndpoint p.profile p.provisioner e 0)) _ :=
    runs_answering finding (p.get "web") (.empty 0 4)
  have faithful : found.Faithful := by
    rintro name e' he
    cases List.mem_singleton.mp he
    rfl
  refine ⟨_, _, _, run, fun log r m' again => ?_⟩
  obtain ⟨-, gets⟩ := gets_of_course p 0 4 (.get .start run) (by simpa [Deed.exchanged] using faithful)
  exact (gets "web" log r m' again).2.2 [] [] _ _ rfl trivial (by simp [othersGot, gotIds])

end Sandboxes.Provider
