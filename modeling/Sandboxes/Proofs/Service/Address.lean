import Sandboxes.Proofs.Handle.Lifecycle
import Sandboxes.Proofs.Net.Ipv4
import Sandboxes.Proofs.Provider.Instances
import Sandboxes.Proofs.Resolver
import Sandboxes.Proofs.Service.Cleanup

/-!
# A sandbox at a fixed address

Where the settings give an address, a service neither needs Docker nor ends any sandbox. Whatever is
done with it, one look-up of that address decides where all of its handles are, of both variants. Until
then nothing is remembered of addresses, and from then on nothing else is.
-/

namespace Sandboxes

open Program

/-! ### What is asked -/

/-- Whether the question is for the Docker daemon, or for a container runtime outside. -/
def Query.isOfRuntime : Query → Bool
  | .findDocker | .docker _ | .launch _ | .attach _ | .remove _ => true
  | _ => false

/-- Whether a host is looked up. -/
def Query.isLookUp : Query → Bool
  | .lookUp _ => true
  | _ => false

namespace Log

variable {log log' : Log}

/-- No container runtime was asked anything. -/
def Detached (log : Log) : Prop :=
  ∀ x ∈ log, x.query.isOfRuntime = false

/-- The look-ups of hosts. -/
def lookUps (log : Log) : Log :=
  log.filter (·.query.isLookUp)

lemma Detached.append (h : log.Detached) (h' : log'.Detached) : Detached (log ++ log') :=
  List.forall_mem_append.mpr ⟨h, h'⟩

@[simp] lemma lookUps_append : (log ++ log').lookUps = log.lookUps ++ log'.lookUps :=
  List.filter_append ..

end Log

/-! ### What is known of the address -/

section Address

variable {a : String} {found found' found'' : Option (Option Ipv4)} {m m' : Memory} {log log' : Log}

/-- The look-up of the address with what it found, once it was made. -/
def lookUpOf (a : String) (found : Option (Option Ipv4)) : Log :=
  found.toList.map fun address => ⟨.lookUp a, address⟩

/-- What stands for the address in URLs, by what was found. -/
def hostOf (a : String) : (found : Option (Option Ipv4)) → String
  | some (some address) => address.text
  | _ => a

/-- Nothing is left to be found about the address. -/
def Decided (a : String) (found : Option (Option Ipv4)) : Prop :=
  (Ipv4.ofText? a).isSome ∨ found.isSome

/-- The memory holds what was found about the address, and nothing about others. -/
structure Looked (a : String) (found : Option (Option Ipv4)) (m : Memory) : Prop where
  entries : m.addresses.entries = found.toList.map (a, ·)
  room : 0 < m.addresses.capacity
  literal : (Ipv4.ofText? a).isSome → found = none

/-- Something may have been found, unless nothing was left to be. -/
structure Advances (a : String) (found : Option (Option Ipv4)) (log : Log)
    (found' : Option (Option Ipv4)) : Prop where
  lookUps : lookUpOf a found' = lookUpOf a found ++ log.lookUps
  stays : Decided a found → found' = found

lemma advances_of_lookUps (h : log.lookUps = []) : Advances a found log found :=
  ⟨by rw [h, List.append_nil], fun _ => rfl⟩

lemma Advances.trans (h : Advances a found log found') (h' : Advances a found' log' found'') :
    Advances a found (log ++ log') found'' where
  lookUps := by rw [h'.lookUps, h.lookUps, Log.lookUps_append, List.append_assoc]
  stays decided := by
    have same := h.stays decided
    rw [h'.stays (same ▸ decided), same]

/-- The address is looked up if that was not done before. -/
lemma Looked.of_runs_hostFor {host : String} (looked : Looked a found m)
    (run : (hostFor a).Runs m log host m') :
    ∃ found', Looked a found' m' ∧ Advances a found log found' ∧ Decided a found' ∧
      host = hostOf a found' := by
  obtain ⟨log₁, answer, m₁, log₂, hres, hrest, rfl⟩ := runs_bind.mp run
  obtain ⟨rfl, rfl, rfl⟩ : log₂ = [] ∧ host = (answer.map Ipv4.text).getD a ∧ m' = m₁ := by
    cases answer <;> exact runs_pure.mp hrest
  -- An address that is written out is not looked up, nor is one that was looked up before.
  cases literal : Ipv4.ofText? a with
  | some address =>
    obtain ⟨rfl, rfl, rfl⟩ := (runs_resolve_literal literal).mp hres
    obtain rfl := looked.literal (by rw [literal]; rfl)
    exact ⟨none, looked, advances_of_lookUps rfl, .inl (by rw [literal]; rfl),
      Ipv4.text_of_ofText? literal⟩
  | none =>
    cases found with
    | some known =>
      have entries : m.addresses.entries = [(a, known)] := looked.entries
      have hit : m.addresses.find? a = some known := by simp [Recent.find?, entries]
      obtain ⟨rfl, rfl, rfl⟩ := (runs_resolve_known literal hit).mp hres
      refine ⟨some answer, ⟨?_, by simpa using looked.room, looked.literal⟩,
        advances_of_lookUps rfl, .inr rfl, ?_⟩
      · simp [Recent.entries_touch hit, Recent.others, entries]
      · cases answer <;> rfl
    | none =>
      have entries : m.addresses.entries = [] := looked.entries
      have miss : m.addresses.find? a = none := by simp [Recent.find?, entries]
      obtain ⟨rfl, rfl⟩ := of_runs_resolve_new literal miss hres
      refine ⟨some answer, ⟨?_, looked.room, fun some => ?_⟩, ⟨rfl, fun decided => ?_⟩, .inr rfl, ?_⟩
      · obtain ⟨n, room⟩ := Nat.exists_eq_add_one.mpr looked.room
        simp [Recent.insert, Recent.others, entries, room]
      · rw [literal] at some
        cases some
      · rcases decided with some | some
        · rw [literal] at some
          cases some
        · cases some
      · cases answer <;> rfl

end Address

/-! ### Where handles are -/

/-- All that a handle asks goes to one host, at the ports that the settings give for its variant. -/
structure Handle.IsAt (s : Settings) (host : String) (h : Handle) : Prop where
  base : h.interface.base =
    "http://" ++ host ++ ":" ++ toString (Profile.ofSettings s h.variant).ports.api.toNat
  vnc : h.vncUrl =
    "ws://" ++ host ++ ":" ++ toString (Profile.ofSettings s h.variant).ports.vnc.toNat
  cdp : h.cdpUrl =
    "http://" ++ host ++ ":" ++ toString (Profile.ofSettings s h.variant).ports.cdp.toNat

/-- A handle for the sandbox at the address, which stays when the handle is destroyed. -/
structure Handle.Here (s : Settings) (a : String) (found : Option (Option Ipv4)) (h : Handle) :
    Prop where
  decided : Decided a found
  isAt : h.IsAt s (hostOf a found)
  stays : h.teardown = none

section Handles

variable {s : Settings} {a : String} {found found' found'' : Option (Option Ipv4)}
  {m m' m'' : Memory} {log log' : Log} {h : Handle} {v : Variant}

lemma Handle.isAt_ofEndpoint {e : Container.Endpoint} {p : Provisioner} {n : Nat} :
    (ofEndpoint (.ofSettings s v) p e n).IsAt s e.host := by
  have variant : (Profile.ofSettings s v).variant = v := by cases v <;> rfl
  refine ⟨?_, ?_, ?_⟩
  · simp only [ofEndpoint, variant]
    exact Text.dropTrailing_append_toString (by decide) _ _
  · simp only [ofEndpoint, variant]
  · simp only [ofEndpoint, variant]

lemma Handle.here_ofEndpoint {e : Container.Endpoint} {p : Provisioner} {n : Nat}
    (decided : Decided a found) (host : e.host = hostOf a found) (ownership : e.ownership = .external) :
    (ofEndpoint (.ofSettings s v) p e n).Here s a found where
  decided := decided
  isAt := host ▸ isAt_ofEndpoint
  stays := by simp [ofEndpoint, teardownOf, ownership]

lemma Handle.Here.advance (here : h.Here s a found) (advances : Advances a found log found') :
    h.Here s a found' :=
  advances.stays here.decided ▸ here

/-- What the memory of a service holds: the address, and handles for the sandbox there. -/
structure Memory.Fixed (s : Settings) (a : String) (found : Option (Option Ipv4)) (m : Memory) :
    Prop where
  looked : Looked a found m
  kept : ∀ v, ∀ x ∈ (m.kept v).entries, x.2.Here s a found

/-- What was done left the memory in order, asked no container runtime, and looked up the address if
anything. -/
structure Proceeds (s : Settings) (a : String) (found : Option (Option Ipv4)) (log : Log)
    (found' : Option (Option Ipv4)) (m' : Memory) : Prop where
  fixed : m'.Fixed s a found'
  advances : Advances a found log found'
  detached : log.Detached

lemma Proceeds.trans (h : Proceeds s a found log found' m)
    (h' : Proceeds s a found' log' found'' m') : Proceeds s a found (log ++ log') found'' m' where
  fixed := h'.fixed
  advances := h.advances.trans h'.advances
  detached := h.detached.append h'.detached

/-! ### Single steps -/

/-- Questions neither for a container runtime nor for addresses. -/
def Query.IsAside (q : Query) : Prop :=
  q.isOfRuntime = false ∧ q.isLookUp = false

lemma Query.IsSandbox.isAside {q : Query} (h : q.IsSandbox) : q.IsAside := by
  cases q with
  | fetch request => exact ⟨rfl, rfl⟩
  | pause time => exact ⟨rfl, rfl⟩
  | _ => exact h.elim

namespace Memory.Fixed

lemma congr (fixed : m.Fixed s a found) (addresses : m'.addresses = m.addresses)
    (kept : ∀ v, m'.kept v = m.kept v) : m'.Fixed s a found where
  looked := ⟨addresses ▸ fixed.looked.entries, addresses ▸ fixed.looked.room, fixed.looked.literal⟩
  kept v := kept v ▸ fixed.kept v

lemma setKept {handles : Recent String Handle} (fixed : m.Fixed s a found)
    (here : ∀ x ∈ handles.entries, x.2.Here s a found) : (m.setKept v handles).Fixed s a found where
  looked := by
    have addresses : (m.setKept v handles).addresses = m.addresses := by cases v <;> rfl
    exact ⟨addresses ▸ fixed.looked.entries, addresses ▸ fixed.looked.room, fixed.looked.literal⟩
  kept w := by
    cases v <;> cases w
    · exact here
    · exact fixed.kept .aio
    · exact fixed.kept .legacy
    · exact here

/-- Nothing changes while other things are asked. -/
lemma aside (fixed : m.Fixed s a found) (h : ∀ x ∈ log, x.query.IsAside) :
    Proceeds s a found log found m where
  fixed := fixed
  advances := advances_of_lookUps
    (List.filter_eq_nil_iff.mpr fun x hx => by simp [(h x hx).2])
  detached x hx := (h x hx).1

lemma silent (fixed : m.Fixed s a found) : Proceeds s a found [] found m :=
  fixed.aside (List.forall_mem_nil _)

lemma ask (fixed : m.Fixed s a found) {q : Query} (reply : q.Reply) (h : q.IsAside) :
    Proceeds s a found [⟨q, reply⟩] found m :=
  fixed.aside fun _ hx => List.mem_singleton.mp hx ▸ h

/-- Finding where the address is leads to its host. -/
lemma of_runs_hostFor {host : String} (fixed : m.Fixed s a found)
    (run : (hostFor a).Runs m log host m') :
    ∃ found', Proceeds s a found log found' m' ∧ Decided a found' ∧ host = hostOf a found' := by
  obtain ⟨found', looked, advances, decided, hhost⟩ := fixed.looked.of_runs_hostFor run
  have confined : (hostFor a).Confined (·.isOfRuntime = false) Memory.Step.IsAddress :=
    confined_hostFor a rfl
  obtain ⟨addresses, rfl⟩ := Steady.exists_addresses ⟨confined.any⟩ run
  refine ⟨found', ⟨⟨looked, fun v x hx => ?_⟩, advances, confined.asked run⟩, decided, hhost⟩
  have kept : ({ m with addresses } : Memory).kept v = m.kept v := Memory.kept_congr rfl rfl
  exact (fixed.kept v x (kept ▸ hx)).advance advances

/-- Destroying a handle of the sandbox succeeds, and asks nothing. -/
lemma of_runs_destroy {done : Bool} (fixed : m.Fixed s a found) (here : h.Here s a found)
    (run : h.destroy.Runs m log done m') : Proceeds s a found log found m' ∧ done = true := by
  have closes : Memory.Fixed s a found (Memory.Step.apply (.close h.number) m).2 :=
    fixed.congr rfl fun v => Memory.kept_congr rfl rfl
  by_cases closed : h.number ∈ m.closed
  · obtain ⟨rfl, rfl, rfl⟩ := (Handle.runs_destroy_closed closed).mp run
    exact ⟨closes.silent, rfl⟩
  · rw [Handle.runs_destroy_open closed, Handle.tearDown, here.stays] at run
    obtain ⟨rfl, rfl, rfl⟩ := runs_pure.mp run
    refine ⟨(closes.setKept fun x hx => ?_).silent, rfl⟩
    exact closes.kept h.variant x (Recent.mem_entries_erase.mp hx).1

/-- Any other job asks nothing but the sandbox. -/
lemma of_runs_start {j : Handle.Job} {out : Handle.Outcome} (fixed : m.Fixed s a found)
    (hj : j ≠ .destroy) (run : (h.start j).Runs m log out m') : Proceeds s a found log found m' := by
  have confined := Handle.confined_start (h := h) hj
  obtain rfl : m' = m := by
    refine confined.kept (I := (· = m)) (fun step n look same => ?_) run rfl
    cases step with
    | isClosed k => exact same
    | _ => exact look.elim
  exact fixed.aside fun x hx => (confined.asked run x hx).isAside

end Memory.Fixed

/-! ### Making and getting sandboxes -/

section Making

variable {p : Provider} {r : Except Failure Handle} {id : String}

/-- A sandbox is made at the address. -/
lemma Memory.Fixed.of_runs_create (fixed : m.Fixed s a found) (address : p.provisioner = .fixed a)
    (profile : p.profile = .ofSettings s v) (run : p.create.Runs m log r m') :
    ∃ found' h, Proceeds s a found log found' m' ∧ r = .ok h ∧ h.Here s a found' := by
  obtain ⟨number, launch, launched, addresses, hlaunch, rfl, result⟩ :=
    Provider.launched_of_runs_create run
  rw [Provider.launching, address] at hlaunch
  obtain ⟨host, hhost, rfl⟩ := runs_bind_pure.mp hlaunch
  obtain ⟨found', proceeds, decided, rfl⟩ := fixed.of_runs_hostFor hhost
  obtain ⟨failure, h, -⟩ | ⟨e, h, rfl, rfl⟩ := result
  · cases h
  cases h
  refine ⟨found', _, ?_, rfl, profile ▸ Handle.here_ofEndpoint decided rfl rfl⟩
  refine (fixed.ask (q := .draw) number ⟨rfl, rfl⟩).trans { proceeds with fixed := ?_ }
  exact proceeds.fixed.congr rfl fun v => Memory.kept_congr rfl rfl

/-- A sandbox is got at the address, whatever its name. -/
lemma Memory.Fixed.of_runs_get (fixed : m.Fixed s a found) (address : p.provisioner = .fixed a)
    (profile : p.profile = .ofSettings s v) (run : (p.get id).Runs m log r m') :
    ∃ found' h, Proceeds s a found log found' m' ∧ r = .ok h ∧ h.Here s a found' := by
  cases hf : (m.kept p.profile.variant).find? id with
  | some h =>
    obtain ⟨rfl, rfl, rfl⟩ := (Provider.runs_get_kept hf).mp run
    have here := fixed.kept _ _ (Recent.mem_entries_of_find? hf)
    refine ⟨found, h, (fixed.setKept fun x hx => ?_).silent, rfl, here⟩
    exact fixed.kept _ x (Recent.mem_entries_touch hx)
  | none =>
    obtain ⟨out, addresses, hattach, result⟩ := Provider.of_runs_get_new hf run
    rw [address] at hattach
    obtain ⟨host, hhost, rfl⟩ := runs_bind_pure.mp hattach
    obtain ⟨found', proceeds, decided, rfl⟩ := fixed.of_runs_hostFor hhost
    obtain ⟨failure, h, -⟩ | ⟨e, h, rfl, rfl⟩ := result
    · cases h
    cases h
    have here {n : Nat} : (Handle.ofEndpoint p.profile p.provisioner
        ⟨some id, hostOf a found', .external⟩ n).Here s a found' :=
      profile ▸ Handle.here_ofEndpoint decided rfl rfl
    have made : Memory.Fixed s a found' { m with addresses, made := m.made + 1 } :=
      proceeds.fixed.congr rfl fun v => Memory.kept_congr rfl rfl
    refine ⟨found', _, { proceeds with fixed := made.setKept fun x hx => ?_ }, rfl, here⟩
    rcases Recent.mem_entries_insert hx with rfl | hx
    · exact here
    · exact proceeds.fixed.kept _ x hx

end Making

/-! ### Health checks -/

/-- A health check makes a sandbox at the address right after it looked at the clock. -/
lemma Memory.Fixed.of_runs_checkHealth {service : Service} {w : Option Variant} {health : Health}
    (fixed : m.Fixed service.settings a found) (address : service.provisioner = .fixed a)
    (run : (service.checkHealth w).Runs m log health m') :
    ∃ found' started launch h m₁, Proceeds service.settings a found log found' m' ∧
      (service.create w).Runs m launch (.ok h) m₁ ∧ ⟨.clock, started⟩ :: launch <+: log ∧
      h.Here service.settings a found' := by
  obtain ⟨started, ended, tried, outcome, htry, rfl, -⟩ := Service.runs_checkHealth.mp run
  obtain ⟨launch, made, m₁, rest, hcreate, hrest, rfl⟩ := runs_bind.mp htry
  obtain ⟨found', h, proceeds, rfl, here⟩ :=
    fixed.of_runs_create (v := service.resolve w) address rfl hcreate
  obtain ⟨waiting, ready, m₂, ending, hready, hend, rfl⟩ := runs_bind.mp hrest
  obtain rfl := Handle.confined_verifyReady.memory_eq hready
  obtain ⟨done, hdestroy, rfl⟩ := runs_bind_pure.mp hend
  have waited : Proceeds service.settings a found' waiting found' m₂ :=
    proceeds.fixed.aside fun x hx => (Handle.confined_verifyReady.asked hready x hx).isAside
  obtain ⟨destroyed, -⟩ := waited.fixed.of_runs_destroy here hdestroy
  refine ⟨found', started, launch, h, m₂, ?_, hcreate,
    ⟨waiting ++ ending ++ [⟨.clock, ended⟩], ?_⟩, here⟩
  · have trial := proceeds.trans (waited.trans destroyed)
    exact (fixed.ask (q := .clock) started ⟨rfl, rfl⟩).trans
      (trial.trans (destroyed.fixed.ask (q := .clock) ended ⟨rfl, rfl⟩))
  · simp

end Handles

/-! ### Whole courses -/

namespace Service

/-- What was done with a service, what was exchanged and what came of it. -/
inductive Deed
  | created (v : Option Variant) (log : Log) (r : Except Failure Handle)
  | got (id : String) (v : Option Variant) (log : Log) (r : Except Failure Handle)
  /-- A health check, with what came of making a sandbox for it. -/
  | checked (v : Option Variant) (log : Log) (r : Except Failure Handle) (health : Health)
  | did (h : Handle) (j : Handle.Job) (log : Log) (out : Handle.Outcome)

namespace Deed

/-- What was exchanged. -/
def exchanged : Deed → Log
  | created _ log _ | got _ _ log _ | checked _ log _ _ | did _ _ log _ => log

/-- The handle that was made or got. -/
def handle? : Deed → Option Handle
  | created _ _ (.ok h) | got _ _ _ (.ok h) | checked _ _ (.ok h) _ => some h
  | _ => none

end Deed

/-- All that was exchanged, of deeds with the latest first. -/
def exchanged : List Deed → Log
  | [] => []
  | d :: ds => exchanged ds ++ d.exchanged

/-- All handles, of deeds with the latest first. -/
def handles (ds : List Deed) : List Handle :=
  ds.filterMap Deed.handle?

/-- The deeds that a service can come to, the latest first, and the memory after them. Any job may be
done with any handle. -/
inductive Course (s : Service) : List Deed → Memory → Prop
  | start : Course s [] s.memory
  | create {ds : List Deed} {m m' : Memory} {v : Option Variant} {log : Log}
      {r : Except Failure Handle} (before : Course s ds m) (run : (s.create v).Runs m log r m') :
      Course s (.created v log r :: ds) m'
  | get {ds : List Deed} {m m' : Memory} {id : String} {v : Option Variant} {log : Log}
      {r : Except Failure Handle} (before : Course s ds m) (run : (s.get id v).Runs m log r m') :
      Course s (.got id v log r :: ds) m'
  | check {ds : List Deed} {m m' m₁ : Memory} {v : Option Variant} {log launch : Log}
      {r : Except Failure Handle} {health : Health} {started : Nat} (before : Course s ds m)
      (run : (s.checkHealth v).Runs m log health m') (made : (s.create v).Runs m launch r m₁)
      (within : ⟨.clock, started⟩ :: launch <+: log) : Course s (.checked v log r health :: ds) m'
  | act {ds : List Deed} {m m' : Memory} {h : Handle} {j : Handle.Job} {log : Log}
      {out : Handle.Outcome} (before : Course s ds m) (mem : h ∈ handles ds)
      (run : (h.start j).Runs m log out m') : Course s (.did h j log out :: ds) m'

section Course

variable {s : Service} {a : String} {ds : List Deed} {d : Deed} {found found' : Option (Option Ipv4)}
  {m m' : Memory} {v : Option Variant}

/-- What holds of all deeds where the settings give an address. -/
structure Settled (s : Service) (a : String) (found : Option (Option Ipv4)) (ds : List Deed)
    (m : Memory) : Prop where
  fixed : m.Fixed s.settings a found
  lookUps : (exchanged ds).lookUps = lookUpOf a found
  detached : (exchanged ds).Detached
  here : ∀ h ∈ handles ds, h.Here s.settings a found
  destroyed : ∀ h log out, .did h .destroy log out ∈ ds → out = .destroyed true

/-- One more deed. -/
lemma Settled.proceed (inv : s.Settled a found ds m)
    (h : Proceeds s.settings a found d.exchanged found' m')
    (here : ∀ h, d.handle? = some h → h.Here s.settings a found')
    (destroyed : ∀ h log out, d = .did h .destroy log out → out = .destroyed true) :
    s.Settled a found' (d :: ds) m' where
  fixed := h.fixed
  lookUps := by rw [exchanged, Log.lookUps_append, inv.lookUps, h.advances.lookUps]
  detached := inv.detached.append h.detached
  here g hg := by
    obtain ⟨d', hd', hhandle⟩ := List.mem_filterMap.mp hg
    rcases List.mem_cons.mp hd' with rfl | hd'
    · exact here g hhandle
    · exact (inv.here g (List.mem_filterMap.mpr ⟨d', hd', hhandle⟩)).advance h.advances
  destroyed g log out hd := by
    rcases List.mem_cons.mp hd with hd | hd
    · exact destroyed g log out hd.symm
    · exact inv.destroyed g log out hd

lemma settled_start : s.Settled a none [] s.memory where
  fixed := {
    looked := ⟨rfl, Nat.lt_of_lt_of_le Nat.zero_lt_one (Nat.le_max_left ..), fun _ => rfl⟩
    kept := fun v x hx => by cases v <;> cases hx }
  lookUps := rfl
  detached := List.forall_mem_nil _
  here := List.forall_mem_nil _
  destroyed := fun _ _ _ hd => by cases hd

lemma Course.exists_settled (address : s.provisioner = .fixed a) (course : s.Course ds m) :
    ∃ found, s.Settled a found ds m := by
  induction course with
  | start => exact ⟨none, settled_start⟩
  | create before run ih =>
    obtain ⟨found, inv⟩ := ih
    obtain ⟨found', h, proceeds, rfl, here⟩ := inv.fixed.of_runs_create address rfl run
    exact ⟨found', inv.proceed proceeds (by rintro _ ⟨⟩; exact here) (by rintro _ _ _ ⟨⟩)⟩
  | get before run ih =>
    obtain ⟨found, inv⟩ := ih
    obtain ⟨found', h, proceeds, rfl, here⟩ := inv.fixed.of_runs_get address rfl run
    exact ⟨found', inv.proceed proceeds (by rintro _ ⟨⟩; exact here) (by rintro _ _ _ ⟨⟩)⟩
  | check before run made within ih =>
    obtain ⟨found, inv⟩ := ih
    obtain ⟨found', started, launch, h, m₁, proceeds, hcreate, within', here⟩ :=
      inv.fixed.of_runs_checkHealth address run
    -- The handle is the one that the check made, as what was exchanged says what came of it.
    obtain ⟨rest, whole⟩ := within
    obtain ⟨rest', whole'⟩ := within'
    obtain ⟨-, rfl, -⟩ := hcreate.unique made (List.cons.inj (whole'.trans whole.symm)).2
    exact ⟨found', inv.proceed proceeds (by rintro _ ⟨⟩; exact here) (by rintro _ _ _ ⟨⟩)⟩
  | @act ds m m' h j log out before mem run ih =>
    obtain ⟨found, inv⟩ := ih
    by_cases hj : j = .destroy
    · subst hj
      obtain ⟨done, hdestroy, rfl⟩ := runs_bind_pure.mp run
      obtain ⟨proceeds, rfl⟩ := inv.fixed.of_runs_destroy (inv.here h mem) hdestroy
      exact ⟨found, inv.proceed proceeds (by rintro _ ⟨⟩) (by rintro _ _ _ ⟨⟩; rfl)⟩
    · have proceeds := inv.fixed.of_runs_start hj run
      exact ⟨found, inv.proceed proceeds (by rintro _ ⟨⟩) (by rintro _ _ _ ⟨⟩; exact absurd rfl hj)⟩

end Course

end Service

/-- Where the settings give the address `a` of a sandbox, whatever is done with the service: no container
runtime is asked anything; destroying a handle always succeeds; `a` is looked up at most once, and not
at all if it is an address in its dotted form, and nothing else is looked up; and all handles are at one
host, which is what the look-up found, and `a` as it is if there is none to be made or it found
nothing. -/
theorem addresses_of_course {s : Settings} {a : String} (address : s.sandboxAddress = some a)
    {ds : List Service.Deed} {m : Memory} (course : (Service.ofSettings s).Course ds m) :
    (∀ x ∈ Service.exchanged ds, x.query.isOfRuntime = false) ∧
    (∀ h log out, .did h .destroy log out ∈ ds → out = .destroyed true) ∧
    ∃ found : Option (Option Ipv4),
      (Service.exchanged ds).lookUps = lookUpOf a found ∧
      ((Ipv4.ofText? a).isSome → found = none) ∧
      ∀ h ∈ Service.handles ds, Decided a found ∧ h.IsAt s (hostOf a found) := by
  have provisioner : (Service.ofSettings s).provisioner = .fixed a := by
    simp [Service.ofSettings, Provisioner.ofSettings, address]
  obtain ⟨found, settled⟩ := course.exists_settled provisioner
  exact ⟨settled.detached, settled.destroyed, found, settled.lookUps, settled.fixed.looked.literal,
    fun h hh => ⟨(settled.here h hh).decided, (settled.here h hh).isAt⟩⟩

/-- The host that an exchange looked up, with what was found. -/
def Exchange.lookedUp? : Exchange → Option (String × Option Ipv4)
  | ⟨.lookUp host, found⟩ => some (host, found)
  | _ => none

/-- Settings that name the host of a sandbox. -/
def Settings.named : Settings :=
  { Settings.usual with sandboxAddress := some "box" }

/-- A world in which that host has an address. -/
def housing : Log → (q : Query) → q.Reply
  | _, .lookUp _ => some (⟨10, 0, 0, 7⟩ : Ipv4)
  | _, _ => default

/-- Two handles of different variants, one new and one for a name, are at the address that was found
for the first of them. -/
theorem addresses_of_course_named :
    ∃ ds m, (Service.ofSettings .named).Course ds m ∧
      (Service.handles ds).map Handle.variant = [.aio, .legacy] ∧
      (Service.exchanged ds).lookUps = lookUpOf "box" (some (some ⟨10, 0, 0, 7⟩)) ∧
      ∀ h ∈ Service.handles ds, h.IsAt .named "10.0.0.7" := by
  let service := Service.ofSettings .named
  let first := (service.create (some .legacy)).run (answering housing) service.memory []
  let second := (service.get "other" (some .aio)).run (answering housing) first.1.2 []
  have course : service.Course [.got "other" (some .aio) second.2 second.1.1,
      .created (some .legacy) first.2 first.1.1] second.1.2 :=
    (Service.Course.start.create (runs_answering housing _ _)).get (runs_answering housing _ _)
  obtain ⟨-, -, found, lookUps, -, here⟩ := addresses_of_course rfl course
  have told : (Service.exchanged [.got "other" (some .aio) second.2 second.1.1,
      .created (some .legacy) first.2 first.1.1]).lookUps.filterMap Exchange.lookedUp? =
        [("box", some ⟨10, 0, 0, 7⟩)] := by decide +kernel
  obtain rfl : found = some (some ⟨10, 0, 0, 7⟩) := by
    rw [lookUps] at told
    cases found with
    | none => cases told
    | some address => cases told; rfl
  exact ⟨_, _, course, by decide +kernel, lookUps, fun h hh => (here h hh).2⟩

end Sandboxes
