import Sandboxes.Proofs.Docker.Runs

/-!
# Containers that a log creates and deletes

What a log tells of the daemon's containers: the names of those that it confirmed to have created, and
the deletions that it was asked for. Launching a container leaves none behind unless it succeeds, as
long as the daemon can be talked to.
-/

namespace Sandboxes

open Program Docker

/-! ### Ledgers -/

namespace Docker

namespace Request

/-- The name of the container that the request asks to be created. -/
def creates? (r : Request) : Option String :=
  if r.method = "POST" ∧ r.path = "/containers/create" then r.query.lookup "name" else none

/-- Whether the request asks for something to be deleted. -/
def deletes (r : Request) : Bool :=
  r.method = "DELETE"

lemma creates?_creation (name : String) (c : Container.Creation) :
    (creation name c).creates? = some name := by
  have path : pathRead "/containers/create" = "/containers/create" := by decide +kernel
  simp [creation, plain, creates?, path]

lemma creates?_of_query_eq_nil {r : Request} (h : r.query = []) : r.creates? = none := by
  simp [creates?, h]

lemma creates?_pull (image : String) : (pull image).creates? = none := by
  have path : pathRead "/images/create" = "/images/create" := by decide +kernel
  simp [pull, plain, creates?, path]

end Request

/-- Whether the reply confirms that a container was created. -/
def confirms (reply : Except String Answer) : Bool :=
  ((verdict reply).bind (reading created?)).isOk

end Docker

namespace Exchange

/-- The name of the container that was created. -/
def created? : Exchange → Option String
  | ⟨.docker r, reply⟩ => if confirms reply then r.creates? else none
  | _ => none

/-- The request to the daemon. -/
def request? : Exchange → Option Docker.Request
  | ⟨.docker r, _⟩ => some r
  | _ => none

/-- The deletion that was asked for. -/
def deletion? : Exchange → Option Docker.Request
  | ⟨.docker r, _⟩ => if r.deletes then some r else none
  | _ => none

end Exchange

namespace Log

/-- The names of the containers that the daemon created. -/
def created (log : Log) : List String :=
  log.filterMap Exchange.created?

/-- The requests to the daemon. -/
def requests (log : Log) : List Docker.Request :=
  log.filterMap Exchange.request?

/-- The deletions that the daemon was asked for, whatever came of them. -/
def deletions (log : Log) : List Docker.Request :=
  log.filterMap Exchange.deletion?

/-- The daemon could be talked to whenever it was looked for. -/
def Connected (log : Log) : Prop :=
  ∀ r, ⟨.findDocker, r⟩ ∈ log → r = Except.ok ()

variable {l l' : Log}

@[simp] lemma created_append : created (l ++ l') = created l ++ created l' :=
  List.filterMap_append

@[simp] lemma requests_append : requests (l ++ l') = requests l ++ requests l' :=
  List.filterMap_append

@[simp] lemma deletions_append : deletions (l ++ l') = deletions l ++ deletions l' :=
  List.filterMap_append

@[simp] lemma connected_append : Connected (l ++ l') ↔ Connected l ∧ Connected l' := by
  simp only [Connected, List.mem_append, or_imp, forall_and]

/-- Neither creates nor deletes anything. -/
def Quiet (log : Log) : Prop :=
  log.created = [] ∧ log.deletions = []

lemma Quiet.append (h : Quiet l) (h' : Quiet l') : Quiet (l ++ l') := by
  simp [Quiet, h.1, h.2, h'.1, h'.2]

end Log

/-- Questions that neither create nor delete containers. -/
def Query.IsQuiet : Query → Prop
  | .docker r => r.creates? = none ∧ r.deletes = false
  | .remove _ => False
  | _ => True

variable {α : Type} {m m' : Memory} {log : Log}

/-- Quiet questions create and delete nothing. -/
lemma Log.quiet_of_forall (asked : ∀ x ∈ log, x.query.IsQuiet) : log.Quiet := by
  constructor
  · refine List.filterMap_eq_nil_iff.mpr fun ⟨q, r⟩ hx => ?_
    have quiet := asked _ hx
    cases q with
    | docker request => simp [Exchange.created?, quiet.1]
    | _ => rfl
  · refine List.filterMap_eq_nil_iff.mpr fun ⟨q, r⟩ hx => ?_
    have quiet := asked _ hx
    cases q with
    | docker request => simp [Exchange.deletion?, quiet.2]
    | _ => rfl

lemma Program.Confined.quiet {p : Program α} {S : Memory.Step → Prop} {a : α}
    (h : p.Confined Query.IsQuiet S) (run : p.Runs m log a m') : log.Quiet :=
  Log.quiet_of_forall (h.asked run)

/-! ### Steps of the daemon -/

namespace Docker

section Steps

variable {Q : Query → Prop} {name image : String}

lemma confined_connect (found : Q .findDocker) : connect.Confined Q fun _ => False :=
  Confined.bind_pure (confined_query.mpr found)

lemma confined_ensureImage (inspected : Q (.docker (.imageInspection image)))
    (pulled : Q (.docker (.pull image))) : (ensureImage image).Confined Q fun _ => False := by
  have inspects : (inspectImage image).Confined Q fun _ => False := confined_request inspected
  have pulls : (pull image).Confined Q fun _ => False := confined_request pulled
  refine inspects.bind fun out => ?_
  cases out with
  | ok _ => exact .done _
  | error fault =>
    dsimp only
    split
    · exact pulls.bind_pure
    · exact .done _

lemma confined_addressOf (inspected : Q (.docker (.inspection name))) :
    (addressOf name).Confined Q fun _ => False := by
  have inspects : (inspect name).Confined Q fun _ => False := confined_request inspected
  refine inspects.bind fun out => ?_
  cases out with
  | ok networks =>
    dsimp only
    split <;> exact .done _
  | error fault =>
    dsimp only
    split <;> exact .done _

lemma confined_startContainer (started : Q (.docker (.start name)))
    (inspected : Q (.docker (.inspection name))) :
    (startContainer name).Confined Q fun _ => False := by
  have starts : (start name).Confined Q fun _ => False := confined_request started
  refine starts.bind fun out => ?_
  cases out with
  | ok _ => exact confined_addressOf inspected
  | error fault => exact .done _

lemma confined_removeContainer (found : Q .findDocker) (removed : Q (.docker (.removal name))) :
    (removeContainer name).Confined Q fun _ => False := by
  have removes : (remove name).Confined Q fun _ => False := confined_request removed
  refine Confined.except_bind (confined_connect found) fun _ => ?_
  refine Confined.except_bind removes.bind_pure fun out => ?_
  cases out with
  | ok _ => exact .done _
  | error fault =>
    dsimp only
    split <;> exact .done _

end Steps

/-- A request without a query that is no deletion is quiet. -/
lemma isQuiet_of_query_eq_nil {r : Request} (h : r.query = []) (h' : r.deletes = false) :
    (Query.docker r).IsQuiet :=
  ⟨Request.creates?_of_query_eq_nil h, h'⟩

lemma quiet_connect : connect.Confined Query.IsQuiet fun _ => False :=
  confined_connect trivial

lemma quiet_ping : ping.Confined Query.IsQuiet fun _ => False :=
  confined_request (isQuiet_of_query_eq_nil rfl rfl)

lemma quiet_ensureImage (image : String) :
    (ensureImage image).Confined Query.IsQuiet fun _ => False :=
  confined_ensureImage (isQuiet_of_query_eq_nil rfl rfl) ⟨Request.creates?_pull image, rfl⟩

lemma quiet_startContainer (name : String) :
    (startContainer name).Confined Query.IsQuiet fun _ => False :=
  confined_startContainer (isQuiet_of_query_eq_nil rfl rfl) (isQuiet_of_query_eq_nil rfl rfl)

/-! ### Removing and launching -/

variable {name : String}

/-- The daemon is asked once to remove a container by force, if it is there to be asked. -/
inductive Discards (name : String) : Log → Prop
  | asked (reply : Except String Answer) :
      Discards name [⟨.findDocker, Except.ok ()⟩, ⟨.docker (.removal name), reply⟩]
  | gone (reason : String) : Discards name [⟨.findDocker, Except.error reason⟩]

lemma discards_of_removeContainer {out : Except Failure Unit}
    (run : (removeContainer name).Runs m log out m') : Discards name log ∧ m' = m := by
  rcases runs_except_bind.mp run with ⟨log₁, _, m₁, log₂, h₁, h₂, rfl⟩ | ⟨failure, h, -⟩
  · obtain ⟨found, rfl, hfound, rfl⟩ := runs_connect.mp h₁
    rcases runs_except_bind.mp h₂ with ⟨log₃, answer, m₂, log₄, h₃, h₄, rfl⟩ | ⟨failure, h, -⟩
    · obtain ⟨_, hremove, -⟩ := runs_except_lift.mp h₃
      obtain ⟨reply, rfl, -, rfl⟩ := runs_remove.mp hremove
      have rest : log₄ = [] ∧ m' = m₂ := by
        cases answer with
        | ok _ =>
          obtain ⟨hlog, -, hm⟩ := runs_except_pure.mp h₄
          exact ⟨hlog, hm⟩
        | error fault =>
          dsimp only at h₄
          split at h₄
          · obtain ⟨hlog, -, hm⟩ := runs_except_pure.mp h₄
            exact ⟨hlog, hm⟩
          · obtain ⟨hlog, -, hm⟩ := runs_except_throw.mp h₄
            exact ⟨hlog, hm⟩
      obtain ⟨rfl, rfl⟩ := rest
      cases found with
      | ok _ => exact ⟨.asked reply, rfl⟩
      | error reason => cases hfound
    · obtain ⟨_, -, h⟩ := runs_except_lift.mp h
      cases h
  · obtain ⟨found, rfl, hfound, rfl⟩ := runs_connect.mp h
    cases found with
    | ok _ => cases hfound
    | error reason => exact ⟨.gone reason, rfl⟩

/-- Removing a container asks the daemon to delete it, once, and leaves the memory as it is. -/
lemma deletions_of_removeContainer {out : Except Failure Unit} (connected : log.Connected)
    (run : (removeContainer name).Runs m log out m') :
    log.created = [] ∧ log.deletions = [.removal name] ∧ m' = m := by
  obtain ⟨discards, rfl⟩ := discards_of_removeContainer run
  cases discards with
  | asked reply =>
    refine ⟨?_, rfl, rfl⟩
    simp [Log.created, Exchange.created?, Request.removal, Request.plain, Request.creates?]
  | gone reason => cases connected _ (List.mem_singleton.mpr rfl)

/-- A container that was created is deleted unless it starts. -/
lemma deletions_of_startOrDiscard {out : Except Failure String} (connected : log.Connected)
    (run : (startOrDiscard name).Runs m log out m') :
    log.created = [] ∧ log.deletions = (if out.isOk then [] else [.removal name]) ∧ m' = m := by
  obtain ⟨log₁, started, m₁, log₂, h₁, h₂, rfl⟩ := runs_bind.mp run
  have quiet := (quiet_startContainer name).quiet h₁
  obtain rfl := (quiet_startContainer name).memory_eq h₁
  cases started with
  | ok host =>
    obtain ⟨rfl, rfl, rfl⟩ := runs_pure.mp h₂
    simp [quiet.1, quiet.2, Except.isOk, Except.toBool]
  | error failure =>
    obtain ⟨removed, h, rfl⟩ := runs_bind_pure.mp h₂
    have discarded := deletions_of_removeContainer (Log.connected_append.mp connected).2 h
    simp [quiet.1, quiet.2, discarded, Except.isOk, Except.toBool]

/-- What may become of launching a container of that name: it is never created, or it is created and
deleted again, or it is up. -/
inductive Launched (name : String) (log : Log) : Except Failure Container.Endpoint → Prop
  | absent {failure : Failure} (quiet : log.Quiet) : Launched name log (.error failure)
  | discarded {failure : Failure} (created : log.created = [name])
      (deleted : log.deletions = [.removal name]) : Launched name log (.error failure)
  | up {host : String} (created : log.created = [name]) (kept : log.deletions = []) :
      Launched name log (.ok ⟨some name, host, .created⟩)

lemma Launched.prepend {before : Log} {out : Except Failure Container.Endpoint}
    (quiet : before.Quiet) (h : Launched name log out) : Launched name (before ++ log) out := by
  cases h with
  | absent rest => exact .absent (quiet.append rest)
  | discarded created deleted =>
    exact .discarded (by simp [quiet.1, created]) (by simp [quiet.2, deleted])
  | up created kept => exact .up (by simp [quiet.1, created]) (by simp [quiet.2, kept])

/-- Every run of the program launches a container of that name, or fails to. -/
def Launches (name : String) (x : ExceptT Failure Program Container.Endpoint) : Prop :=
  ∀ {m m' : Memory} {log : Log} {out}, log.Connected → x.run.Runs m log out m' →
    Launched name log out ∧ m' = m

/-- A quiet program may come before. -/
lemma Launches.of_bind {x : ExceptT Failure Program α}
    {f : α → ExceptT Failure Program Container.Endpoint}
    (hx : x.run.Confined Query.IsQuiet fun _ => False) (hf : ∀ a, Launches name (f a)) :
    Launches name (x >>= f) := by
  intro m m' log out connected run
  rcases runs_except_bind.mp run with ⟨log₁, a, m₁, log₂, h₁, h₂, rfl⟩ | ⟨failure, h, rfl⟩
  · obtain rfl := hx.memory_eq h₁
    obtain ⟨launched, hm⟩ := hf a (Log.connected_append.mp connected).2 h₂
    exact ⟨launched.prepend (hx.quiet h₁), hm⟩
  · exact ⟨.absent (hx.quiet h), hx.memory_eq h⟩

lemma created_of_runs_create {c : Container.Creation} {out : Except Fault Unit}
    (run : (create name c).Runs m log out m') :
    log.created = (if out.isOk then [name] else []) ∧ log.deletions = [] ∧ m' = m := by
  obtain ⟨reply, rfl, rfl, rfl⟩ := runs_create.mp run
  refine ⟨?_, ?_, rfl⟩
  · cases hc : confirms reply <;>
      simp [Log.created, Exchange.created?, hc, Request.creates?_creation,
        show ((verdict reply).bind (reading created?)).isOk = _ from hc]
  · simp [Log.deletions, Exchange.deletion?, Request.creation, Request.plain, Request.deletes]

/-- Launching a container leaves none behind unless it succeeds. -/
lemma launches_launch (spec : Container.Spec) : Launches spec.name (launch spec) := by
  refine Launches.of_bind quiet_connect fun _ => ?_
  refine Launches.of_bind quiet_ping.bind_pure fun _ => ?_
  refine Launches.of_bind (quiet_ensureImage spec.image) fun _ => ?_
  intro m m' log out connected run
  rcases runs_except_bind.mp run with ⟨log₁, _, m₁, log₂, h₁, h₂, rfl⟩ | ⟨failure, h, rfl⟩
  · obtain ⟨answer, hcreate, hok⟩ := runs_bind_pure.mp h₁
    obtain ⟨created, kept, rfl⟩ := created_of_runs_create hcreate
    cases answer with
    | error fault => cases hok
    | ok _ =>
      have connected₂ := (Log.connected_append.mp connected).2
      rcases runs_except_bind.mp h₂ with ⟨log₃, host, m₂, log₄, h₃, h₄, rfl⟩ | ⟨failure, h, rfl⟩
      · obtain ⟨rfl, rfl, rfl⟩ := runs_except_pure.mp h₄
        obtain ⟨quiet, deleted, rfl⟩ :=
          deletions_of_startOrDiscard (Log.connected_append.mp connected₂).1 h₃
        exact ⟨.up (by simp [created, quiet, Except.isOk, Except.toBool])
          (by simp [kept, deleted, Except.isOk, Except.toBool]), rfl⟩
      · obtain ⟨quiet, deleted, rfl⟩ := deletions_of_startOrDiscard connected₂ h
        exact ⟨.discarded (by simp [created, quiet, Except.isOk, Except.toBool])
          (by simp [kept, deleted, Except.isOk, Except.toBool]), rfl⟩
  · obtain ⟨answer, hcreate, hok⟩ := runs_bind_pure.mp h
    obtain ⟨created, kept, rfl⟩ := created_of_runs_create hcreate
    cases answer with
    | ok _ => cases hok
    | error fault => exact ⟨.absent ⟨created, kept⟩, rfl⟩

end Docker

end Sandboxes
