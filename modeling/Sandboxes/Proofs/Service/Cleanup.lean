import Sandboxes.Command.Run
import Sandboxes.Proofs.Docker.Cleanup
import Sandboxes.Proofs.Handle.Ending
import Sandboxes.Proofs.Memory
import Sandboxes.Proofs.Profile

/-!
# No container is left behind

On the Docker daemon, a health check deletes the container that was created for it, and the command
that makes a sandbox deletes the container unless the command succeeds. Either asks for this deletion
once, and for no other, whatever the daemon and the sandbox server reply. The name is not escaped in
the path of the deletion, so that the settings must keep characters with a meaning there out of it.
Launching, the health check and the command each have a cleanup of their own; the proofs hand over
which of them is in charge.
-/

namespace Sandboxes

open Program Docker

variable {α : Type} {m m' : Memory} {log : Log} {name : String}

lemma Query.IsSandbox.isQuiet {q : Query} (h : q.IsSandbox) : q.IsQuiet := by
  cases q <;> trivial

/-! ### Handles -/

namespace Handle

variable {p : Profile} {h : Handle}

/-- Destroying an open handle deletes the container that goes with it. -/
lemma deletions_of_destroy {done : Bool} (docker : h.provisioner = .docker)
    (goes : h.teardown = some name) (opened : h.number ∉ m.closed) (connected : log.Connected)
    (run : h.destroy.Runs m log done m') :
    log.created = [] ∧ log.deletions = [.removal name] ∧ m' = h.afterClose m := by
  rw [runs_destroy_open opened] at run
  simp only [tearDown, goes, docker, Provisioner.remove, runs_bind_pure] at run
  obtain ⟨out, run, -⟩ := run
  exact deletions_of_removeContainer connected run

/-- Closing a handle that was made keeps the numbering. -/
lemma numbered_afterClose (numbered : m.Numbered) (made : h.number < m.made) :
    (h.afterClose m).Numbered := by
  refine Memory.Numbered.apply (Memory.Numbered.apply numbered _ ?_) _ (by simp)
  rintro _ ⟨⟩
  exact made

end Handle

/-! ### Containers and what becomes of them -/

/-- At most the container of that name is created, and its deletion is asked for once unless it is
kept. No other deletion is asked for. -/
structure Log.Accounts (name : String) (kept : Bool) (log : Log) : Prop where
  created : log.created = [] ∨ log.created = [name]
  deleted : log.deletions = if kept then [] else log.created.map .removal

lemma Log.Accounts.append {kept : Bool} {after : Log} (h : log.Accounts name kept)
    (quiet : after.Quiet) : (log ++ after).Accounts name kept where
  created := by simpa [quiet.1] using h.created
  deleted := by simpa [quiet.1, quiet.2] using h.deleted

lemma Log.Accounts.prepend {kept : Bool} (before : Log) (quiet : before.Quiet)
    (h : log.Accounts name kept) : (before ++ log).Accounts name kept where
  created := by simpa [quiet.1] using h.created
  deleted := by simpa [quiet.1, quiet.2] using h.deleted

lemma Log.Accounts.deletions_eq {deletion : Request} {n : String} (h : log.Accounts n false)
    (created : log.created = [name]) (removal : Request.removal name = deletion) :
    log.deletions = [deletion] := by
  rw [h.deleted, created, ← removal]
  rfl

namespace Provider

variable {p : Provider}

/-- What making a sandbox comes to: either no container is left, or there is an open handle that the
container goes with. -/
inductive Made (p : Provider) (m : Memory) (number : UInt32) (log : Log) :
    Except Failure Handle → Memory → Prop
  | none {failure : Failure} (accounts : log.Accounts (p.profile.containerName number) false) :
      Made p m number log (.error failure) m
  | one {host : String} (created : log.created = [p.profile.containerName number])
      (kept : log.deletions = []) :
      Made p m number log
        (.ok (.ofEndpoint p.profile .docker
          ⟨some (p.profile.containerName number), host, .created⟩ m.made))
        { m with made := m.made + 1 }

lemma made_of_runs_create {out : Except Failure Handle} (docker : p.provisioner = .docker)
    (connected : log.Connected) (run : p.create.Runs m log out m') :
    ∃ number rest, log = ⟨.draw, number⟩ :: rest ∧ Made p m number rest out m' := by
  obtain ⟨_, number, m₁, rest, hdraw, hrest, rfl⟩ := runs_bind.mp run
  obtain ⟨rfl, rfl⟩ := runs_query.mp hdraw
  refine ⟨number, rest, rfl, ?_⟩
  obtain ⟨log₁, endpoint, m₂, log₂, h₁, h₂, rfl⟩ := runs_bind.mp hrest
  rw [docker] at h₁ h₂
  have connected₁ := (Log.connected_append.mp (Log.connected_append.mp connected).2).1
  obtain ⟨launched, rfl⟩ : Launched (p.profile.containerName number) log₁ endpoint ∧ m₂ = m₁ :=
    launches_launch _ connected₁ h₁
  cases launched with
  | absent quiet =>
    obtain ⟨rfl, rfl, rfl⟩ := runs_pure.mp h₂
    exact .none ⟨by simp [quiet.1], by simp [quiet.1, quiet.2]⟩
  | discarded created deleted =>
    obtain ⟨rfl, rfl, rfl⟩ := runs_pure.mp h₂
    refine .none ⟨.inr ?_, ?_⟩
    · simpa using created
    · simp [created, deleted]
  | up created kept =>
    obtain ⟨handle, hnew, rfl⟩ := runs_bind_pure.mp h₂
    obtain ⟨rfl, rfl, rfl⟩ := Handle.runs_new.mp hnew
    exact .one (by simpa using created) (by simpa using kept)

end Provider

/-! ### Health checks and the command -/

/-- A handle that was made for a container of its own is destroyed together with it. -/
lemma Log.Accounts.of_destroy {p : Profile} {number : UInt32} {host : String} {done : Bool}
    {created waiting ending : Log} (h₁ : created.created = [p.containerName number])
    (h₂ : created.deletions = []) (quiet : waiting.Quiet) (connected : ending.Connected)
    (numbered : m.Numbered)
    (run : (Handle.ofEndpoint p .docker ⟨some (p.containerName number), host, .created⟩ m.made).destroy.Runs
      { m with made := m.made + 1 } ending done m') :
    (created ++ (waiting ++ ending)).Accounts (p.containerName number) false ∧ m'.Numbered := by
  obtain ⟨h₃, h₄, rfl⟩ := Handle.deletions_of_destroy rfl (Handle.teardownOf_containerName number host)
    numbered.made_not_mem connected run
  refine ⟨⟨.inr ?_, ?_⟩, Handle.numbered_afterClose ?_ (Nat.lt_succ_self _)⟩
  · simp [h₁, h₃, quiet.1]
  · simp [h₁, h₂, h₃, h₄, quiet.1, quiet.2]
  · exact numbered.apply .number (by simp)

namespace Service

variable {s : Service} {v : Option Variant}

lemma accounts_of_runs_tryOut {v : Variant} {out : Except Failure Unit}
    (docker : s.provisioner = .docker) (connected : log.Connected) (numbered : m.Numbered)
    (run : (s.tryOut v).Runs m log out m') :
    ∃ (number : UInt32) (rest : Log), log = ⟨.draw, number⟩ :: rest ∧
      rest.Accounts ((s.provider v).profile.containerName number) false ∧ m'.Numbered := by
  obtain ⟨log₁, made, m₁, log₂, h₁, h₂, rfl⟩ := runs_bind.mp run
  have connected := Log.connected_append.mp connected
  obtain ⟨number, rest, rfl, hmade⟩ :=
    Provider.made_of_runs_create (p := s.provider v) docker connected.1 h₁
  cases hmade with
  | none accounts =>
    obtain ⟨rfl, rfl, rfl⟩ := runs_pure.mp h₂
    exact ⟨number, rest, by simp, accounts, numbered⟩
  | one created kept =>
    obtain ⟨log₃, outcome, m₂, log₄, h₃, h₄, rfl⟩ := runs_bind.mp h₂
    obtain ⟨done, hdestroy, rfl⟩ := runs_bind_pure.mp h₄
    obtain rfl := Handle.confined_verifyReady.memory_eq h₃
    have quiet := (Handle.confined_verifyReady.mono (fun _ => Query.IsSandbox.isQuiet)
      (fun _ h => h)).quiet h₃
    obtain ⟨accounts, numbered⟩ := Log.Accounts.of_destroy created kept quiet
      (Log.connected_append.mp connected.2).2 numbered hdestroy
    exact ⟨number, _, by simp, accounts, numbered⟩

/-- What a health check reports of an outcome. -/
def reportOf (millis : Double) : Except Failure Unit → Health
  | .ok _ => { isHealthy := true, millis, fault := none }
  | .error failure => { isHealthy := false, millis, fault := some failure.message }

lemma checkHealth_eq : s.checkHealth v = query .clock >>= fun started =>
    s.tryOut (s.resolve v) >>= fun outcome => query .clock >>= fun ended =>
      pure (reportOf (millisOf (ended - started)) outcome) := by
  refine congrArg (query .clock >>= ·) (funext fun started => ?_)
  refine congrArg (s.tryOut (s.resolve v) >>= ·) (funext fun outcome => ?_)
  refine congrArg (query .clock >>= ·) (funext fun ended => ?_)
  cases outcome <;> rfl

/-- A health check tries out a sandbox between two looks at the clock. -/
lemma runs_checkHealth {health : Health} :
    (s.checkHealth v).Runs m log health m' ↔
      ∃ (started ended : Nat) (tried : Log) (outcome : Except Failure Unit),
        (s.tryOut (s.resolve v)).Runs m tried outcome m' ∧
        log = ⟨.clock, started⟩ :: (tried ++ [⟨.clock, ended⟩]) ∧
        health = reportOf (millisOf (ended - started)) outcome := by
  rw [checkHealth_eq]
  constructor
  · intro run
    obtain ⟨_, started, m₁, log₁, hstart, h₁, rfl⟩ := runs_bind.mp run
    obtain ⟨rfl, rfl⟩ := runs_query.mp hstart
    obtain ⟨tried, outcome, m₂, log₂, htry, h₂, rfl⟩ := runs_bind.mp h₁
    obtain ⟨ended, hend, rfl⟩ := runs_bind_pure.mp h₂
    obtain ⟨rfl, rfl⟩ := runs_query.mp hend
    exact ⟨started, ended, tried, outcome, htry, rfl, rfl⟩
  · rintro ⟨started, ended, tried, outcome, htry, rfl, rfl⟩
    refine runs_bind.mpr ⟨[⟨.clock, started⟩], started, m, _, runs_query.mpr ⟨rfl, rfl⟩, ?_, rfl⟩
    refine runs_bind.mpr ⟨tried, outcome, m', _, htry, ?_, rfl⟩
    exact runs_bind_pure.mpr ⟨ended, runs_query.mpr ⟨rfl, rfl⟩, rfl⟩

lemma accounts_of_runs_checkHealth {health : Health} (docker : s.provisioner = .docker)
    (connected : log.Connected) (numbered : m.Numbered)
    (run : (s.checkHealth v).Runs m log health m') :
    ∃ (started : Nat) (number : UInt32) (rest : Log),
      log = ⟨.clock, started⟩ :: ⟨.draw, number⟩ :: rest ∧
      log.Accounts ((s.provider (s.resolve v)).profile.containerName number) false ∧
      m'.Numbered := by
  obtain ⟨started, ended, tried, outcome, htry, rfl, -⟩ := runs_checkHealth.mp run
  have connected' : tried.Connected := fun r hr =>
    connected r (List.mem_cons_of_mem _ (List.mem_append_left _ hr))
  obtain ⟨number, rest, rfl, accounts, numbered'⟩ :=
    accounts_of_runs_tryOut docker connected' numbered htry
  have stopped : Log.Quiet [⟨.clock, ended⟩] := ⟨rfl, rfl⟩
  have whole := (accounts.append stopped).prepend [⟨.clock, started⟩, ⟨.draw, number⟩] ⟨rfl, rfl⟩
  exact ⟨started, number, rest ++ [⟨.clock, ended⟩], by simp, by simpa using whole, numbered'⟩

end Service

namespace Command

open Terminal

variable {s : Service} {v : Option Variant} {screen : Screen}

lemma Attempt.runs_within {attempt : String} {p : Program (Except Failure α)}
    {out : Except (List String) α} :
    (within attempt p).run.Runs m log out m' ↔
      ∃ a, p.Runs m log a m' ∧ out = a.mapError fun failure => [attempt, failure.message] :=
  runs_bind_pure

lemma confined_printText (text : String) :
    (printText text).Confined (fun q => ∃ content, q = .print content) fun _ => False := by
  unfold printText
  split
  · exact .done _
  · exact confined_query.mpr ⟨_, rfl⟩

/-- Printing prints, and nothing else. -/
lemma of_runs_print {first second : String} {out : Except (List String) Unit}
    (run : ExceptT.run (do Attempt.sure (printText first); Attempt.sure (printText second)) |>.Runs
      m log out m') :
    (∀ x ∈ log, ∃ content, x.query = .print content) ∧ out = .ok () ∧ m' = m := by
  rcases runs_except_bind.mp run with ⟨log₁, _, m₁, log₂, h₁, h₂, rfl⟩ | ⟨e, h, -⟩
  · obtain ⟨_, hfirst, -⟩ := runs_except_lift.mp h₁
    obtain ⟨_, hsecond, rfl⟩ := runs_except_lift.mp h₂
    obtain rfl := (confined_printText first).memory_eq hfirst
    obtain rfl := (confined_printText second).memory_eq hsecond
    refine ⟨fun x hx => ?_, rfl, rfl⟩
    rcases List.mem_append.mp hx with hx | hx
    · exact (confined_printText first).asked hfirst x hx
    · exact (confined_printText second).asked hsecond x hx
  · obtain ⟨_, -, h⟩ := runs_except_lift.mp h
    cases h

/-- The command makes a sandbox, and nothing is left to do. -/
lemma of_runs_create {out : Except (List String) Sequel}
    (run : (Command.run screen s (.create v)).Runs m log out m') :
    ∃ done, (runCreate screen s v).run.Runs m log done m' ∧ out = done.map fun _ => .nothing := by
  rcases runs_except_bind.mp run with ⟨log₁, _, m₁, log₂, h₁, h₂, rfl⟩ | ⟨e, h, rfl⟩
  · obtain ⟨rfl, rfl, rfl⟩ := runs_except_pure.mp h₂
    exact ⟨_, by simpa using h₁, rfl⟩
  · exact ⟨_, h, rfl⟩

lemma accounts_of_runs_readyOrDestroyed {p : Profile} {number : UInt32} {host : String}
    {created : Log} {out : Except Failure Unit} (h₁ : created.created = [p.containerName number])
    (h₂ : created.deletions = []) (connected : log.Connected) (numbered : m.Numbered)
    (run : (readyOrDestroyed (.ofEndpoint p .docker
      ⟨some (p.containerName number), host, .created⟩ m.made)).Runs
      { m with made := m.made + 1 } log out m') :
    (created ++ log).Accounts (p.containerName number) out.isOk ∧ m'.Numbered := by
  obtain ⟨log₁, ready, m₁, log₂, hready, hrest, rfl⟩ := runs_bind.mp run
  have quiet := (Handle.confined_ensureReady.mono (fun _ => Query.IsSandbox.isQuiet)
    (fun _ h => h)).quiet hready
  obtain rfl := Handle.confined_ensureReady.memory_eq hready
  cases ready with
  | ok _ =>
    obtain ⟨rfl, rfl, rfl⟩ := runs_pure.mp hrest
    refine ⟨⟨.inr ?_, ?_⟩, numbered.apply .number (by simp)⟩
    · simp [h₁, quiet.1]
    · simp [h₂, quiet.2, Except.isOk, Except.toBool]
  | error failure =>
    obtain ⟨done, hdestroy, rfl⟩ := runs_bind_pure.mp hrest
    exact Log.Accounts.of_destroy h₁ h₂ quiet (Log.connected_append.mp connected).2 numbered hdestroy

lemma accounts_of_runs_create {out : Except (List String) Sequel} (docker : s.provisioner = .docker)
    (connected : log.Connected) (numbered : m.Numbered)
    (run : (Command.run screen s (.create v)).Runs m log out m') :
    ∃ (number : UInt32) (rest : Log), log = ⟨.draw, number⟩ :: rest ∧
      log.Accounts ((s.provider (s.resolve v)).profile.containerName number) out.isOk ∧
      m'.Numbered := by
  suffices ∃ (number : UInt32) (rest : Log), log = ⟨.draw, number⟩ :: rest ∧
      rest.Accounts ((s.provider (s.resolve v)).profile.containerName number) out.isOk ∧
      m'.Numbered by
    obtain ⟨number, rest, rfl, accounts, numbered⟩ := this
    exact ⟨number, rest, rfl, accounts.prepend [⟨.draw, number⟩] ⟨rfl, rfl⟩, numbered⟩
  obtain ⟨done, hdone, rfl⟩ := of_runs_create run
  have succeeds : (done.map fun _ => Sequel.nothing).isOk = done.isOk := by cases done <;> rfl
  rw [succeeds]
  rcases runs_except_bind.mp hdone with ⟨log₁, handle, m₁, log₂, h₁, h₂, rfl⟩ | ⟨e, h, rfl⟩
  · obtain ⟨made, hmade, hok⟩ := Attempt.runs_within.mp h₁
    have connected := Log.connected_append.mp connected
    obtain ⟨number, rest, rfl, result⟩ :=
      Provider.made_of_runs_create (p := s.provider (s.resolve v)) docker connected.1 hmade
    cases result with
    | none accounts => cases hok
    | one created kept =>
      cases hok
      rcases runs_except_bind.mp h₂ with ⟨log₃, _, m₂, log₄, h₃, h₄, rfl⟩ | ⟨e, h, rfl⟩
      · obtain ⟨ready, hready, hok⟩ := Attempt.runs_within.mp h₃
        obtain ⟨accounts, numbered⟩ := accounts_of_runs_readyOrDestroyed created kept
          (Log.connected_append.mp connected.2).1 numbered hready
        obtain ⟨prints, rfl, rfl⟩ := of_runs_print h₄
        have quiet : Log.Quiet log₄ := Log.quiet_of_forall fun x hx => by
          obtain ⟨content, print⟩ := prints x hx
          rw [print]
          trivial
        cases ready with
        | ok _ =>
          refine ⟨number, rest ++ (log₃ ++ log₄), by simp, ?_, numbered⟩
          rw [← List.append_assoc]
          exact accounts.append quiet
        | error failure => cases hok
      · obtain ⟨ready, hready, hok⟩ := Attempt.runs_within.mp h
        obtain ⟨accounts, numbered⟩ :=
          accounts_of_runs_readyOrDestroyed created kept connected.2 numbered hready
        cases ready with
        | ok _ => cases hok
        | error failure => exact ⟨number, _, by simp, accounts, numbered⟩
  · obtain ⟨made, hmade, hok⟩ := Attempt.runs_within.mp h
    obtain ⟨number, rest, rfl, result⟩ :=
      Provider.made_of_runs_create (p := s.provider (s.resolve v)) docker connected hmade
    cases result with
    | none accounts => exact ⟨number, rest, rfl, accounts, numbered⟩
    | one created kept => cases hok

end Command

/-! ### Whole runs -/

/-- The daemon reads a name of the profile in the path of a deletion as it is, if the stem consists of
verbatim characters. -/
lemma Profile.removal_containerName {p : Profile} (number : UInt32)
    (verbatim : ∀ c ∈ p.stem.toList, Net.Url.isVerbatim c = true) :
    Request.removal (p.containerName number) =
      ⟨"DELETE", "/containers/" ++ p.containerName number, [("force", "true")], none⟩ := by
  have nonempty : Text.hexPadded 8 number.toNat ≠ [] := by simp [Text.hexPadded]
  have read := Request.removal_of_verbatim nonempty verbatim fun _ =>
    Net.Url.isUnreserved_of_mem_hexPadded
  rwa [← Profile.toList_containerName, String.ofList_toList] at read

/-- On the Docker daemon, let `n` be the name that is drawn in a health check or in the command that
makes a sandbox. Whatever the daemon and the sandbox server reply, a health check asks for the deletion
of `n` exactly once if the daemon created it; the command does if it fails, and asks for none if it
succeeds; and no other deletion is ever asked for. The name is not escaped in the path of the deletion;
the daemon reads `n` there if the settings put only verbatim characters into it. -/
theorem accounts_of_settings (s : Settings) (docker : s.sandboxAddress = none) (v : Option Variant)
    (screen : Terminal.Screen) (m : Memory) (numbered : m.Numbered) :
    let service := Service.ofSettings s
    let name := (Profile.ofSettings s (service.resolve v)).containerName
    (∀ (log : Log) health m', log.Connected → (service.checkHealth v).Runs m log health m' →
      ∃ (started : Nat) (number : UInt32) (rest : Log),
        log = ⟨.clock, started⟩ :: ⟨.draw, number⟩ :: rest ∧ log.Accounts (name number) false ∧
        m'.Numbered) ∧
    (∀ (log : Log) out m', log.Connected →
      (Command.run screen service (.create v)).Runs m log out m' →
      ∃ (number : UInt32) (rest : Log), log = ⟨.draw, number⟩ :: rest ∧
        log.Accounts (name number) out.isOk ∧ m'.Numbered) ∧
    ∀ number, (∀ c ∈ (Profile.ofSettings s (service.resolve v)).stem.toList,
        Net.Url.isVerbatim c = true) →
      Request.removal (name number) =
        ⟨"DELETE", "/containers/" ++ name number, [("force", "true")], none⟩ := by
  have provisioner : (Service.ofSettings s).provisioner = .docker := by
    simp [Service.ofSettings, Provisioner.ofSettings, docker]
  refine ⟨?_, ?_, ?_⟩
  · intro log health m' connected run
    exact Service.accounts_of_runs_checkHealth provisioner connected numbered run
  · intro log out m' connected run
    exact Command.accounts_of_runs_create provisioner connected numbered run
  · intro number verbatim
    exact Profile.removal_containerName number verbatim

/-- A daemon that creates containers but gives them no address. -/
def Docker.addressless : Log → (q : Query) → q.Reply
  | _, .docker r =>
    .ok (if r.creates?.isSome then ⟨201, Text.encode "\x7b\"Id\":\"c0ffee\",\"Warnings\":[]\x7d"⟩
      else ⟨200, Text.encode "\x7b\x7d"⟩)
  | _, _ => default

lemma Docker.connected_addressless (p : Program α) (m : Memory) :
    Log.Connected (p.run (answering addressless) m []).2 := by
  intro r hr
  rcases reply_of_mem_run hr with h | ⟨before, h⟩
  · cases h
  · exact h

/-- A container without an address is deleted by a health check and by the command. -/
theorem accounts_of_addressless :
    let service := Service.ofSettings .usual
    let name := "sandbox-00000000"
    let deletion : Request := ⟨"DELETE", "/containers/sandbox-00000000", [("force", "true")], none⟩
    (∃ (log : Log) (health : Health) (m' : Memory),
      (service.checkHealth none).Runs (.empty 4 4) log health m' ∧ log.Connected ∧
      log.created = [name] ∧ log.deletions = [deletion]) ∧
    ∃ (log : Log) (out : Except (List String) Command.Sequel) (m' : Memory),
      (Command.run ⟨false⟩ service (.create none)).Runs (.empty 4 4) log out m' ∧
      log.Connected ∧ out.isOk = false ∧ log.created = [name] ∧ log.deletions = [deletion] := by
  obtain ⟨health, command, read⟩ := accounts_of_settings .usual rfl none ⟨false⟩ (.empty 4 4)
    (Memory.numbered_empty 4 4)
  have deletion : Request.removal "sandbox-00000000" =
      ⟨"DELETE", "/containers/sandbox-00000000", [("force", "true")], none⟩ :=
    read 0 (List.all_eq_true.mp (by decide +kernel))
  constructor
  · have run := runs_answering addressless ((Service.ofSettings .usual).checkHealth none)
      (.empty 4 4)
    obtain ⟨_, _, _, -, accounts, -⟩ := health _ _ _ (connected_addressless _ _) run
    have created : Log.created (((Service.ofSettings .usual).checkHealth none).run
        (answering addressless) (.empty 4 4) []).2 = ["sandbox-00000000"] := by decide +kernel
    exact ⟨_, _, _, run, connected_addressless _ _, created, accounts.deletions_eq created deletion⟩
  · have run := runs_answering addressless (Command.run ⟨false⟩ (Service.ofSettings .usual)
      (.create none)) (.empty 4 4)
    obtain ⟨_, _, -, accounts, -⟩ := command _ _ _ (connected_addressless _ _) run
    have created : Log.created ((Command.run ⟨false⟩ (Service.ofSettings .usual)
        (.create none)).run (answering addressless) (.empty 4 4) []).2 =
        ["sandbox-00000000"] := by decide +kernel
    have failed : Except.isOk ((Command.run ⟨false⟩ (Service.ofSettings .usual)
        (.create none)).run (answering addressless) (.empty 4 4) []).1.1 = false := by
      decide +kernel
    rw [failed] at accounts
    exact ⟨_, _, _, run, connected_addressless _ _, failed, created,
      accounts.deletions_eq created deletion⟩

/-- A question mark in the stem ends the path of the deletion, so that another container than the one
created is deleted. -/
theorem deletions_of_question_mark :
    let service := Service.ofSettings { Settings.usual with
      legacy := { Settings.usual.legacy with stem := "postgres?" } }
    let name := "postgres?-00000000"
    let deletion : Request := ⟨"DELETE", "/containers/postgres", [("force", "true")], none⟩
    (∃ (log : Log) (health : Health) (m' : Memory),
      (service.checkHealth none).Runs (.empty 4 4) log health m' ∧ log.Connected ∧
      log.created = [name] ∧ log.deletions = [deletion]) ∧
    (∃ (log : Log) (out : Except (List String) Command.Sequel) (m' : Memory),
      (Command.run ⟨false⟩ service (.create none)).Runs (.empty 4 4) log out m' ∧
      log.Connected ∧ out.isOk = false ∧ log.created = [name] ∧ log.deletions = [deletion]) ∧
    deletion.path ≠ "/containers/" ++ name := by
  intro service name deletion
  have removal : Request.removal name = deletion := by
    have read : pathRead ("/containers/" ++ name) = deletion.path := by decide +kernel
    rw [Request.removal, Request.plain, read]
  have numbered := Memory.numbered_empty 4 4
  refine ⟨?_, ?_, by decide⟩
  · have run := runs_answering addressless (service.checkHealth none) (.empty 4 4)
    obtain ⟨_, _, _, -, accounts, -⟩ :=
      Service.accounts_of_runs_checkHealth rfl (connected_addressless _ _) numbered run
    have created : Log.created ((service.checkHealth none).run (answering addressless)
        (.empty 4 4) []).2 = [name] := by decide +kernel
    exact ⟨_, _, _, run, connected_addressless _ _, created, accounts.deletions_eq created removal⟩
  · have run := runs_answering addressless (Command.run ⟨false⟩ service (.create none))
      (.empty 4 4)
    obtain ⟨_, _, -, accounts, -⟩ :=
      Command.accounts_of_runs_create rfl (connected_addressless _ _) numbered run
    have created : Log.created ((Command.run ⟨false⟩ service (.create none)).run
        (answering addressless) (.empty 4 4) []).2 = [name] := by decide +kernel
    have failed : Except.isOk ((Command.run ⟨false⟩ service (.create none)).run
        (answering addressless) (.empty 4 4) []).1.1 = false := by decide +kernel
    rw [failed] at accounts
    exact ⟨_, _, _, run, connected_addressless _ _, failed, created,
      accounts.deletions_eq created removal⟩

end Sandboxes
