import Sandboxes.Command.Run
import Sandboxes.Proofs.Control.Envelope
import Sandboxes.Proofs.Control.Polling
import Sandboxes.Proofs.Handle.Replay
import Sandboxes.Proofs.Provider.Instances
import Sandboxes.Proofs.Terminal.Report

/-!
# Running a command inside a sandbox

A command in an all-in-one sandbox is answered with an envelope by the route that both variants have, or
by a native shell where that route is not known. The two forms of answer are read in different ways, but
`written_of_exec` shows that what is written of them is the same.
-/

namespace Sandboxes

open Program Terminal

namespace Control

variable {i : Interface} {o : Operation} {r : Route} {body : Bytes} {m : Memory} {log : Log}
  {session dir command output errors : String}

/-! ### Answers of both forms -/

/-- The message of a success, which is its error text unless that is empty. -/
def messageOf (errors : String) : Option String :=
  if errors = "" then none else some errors

lemma Route.decode_envelope {j : Json} {e : Envelope} (shape : r.shape = .envelope)
    (read : Json.readRecord? Envelope.memberNames body = some j) (spells : Envelope.Spells j e) :
    r.decode body = .ok e := by
  simp only [decode, shape, read, Option.bind_some, Envelope.ofJson?_iff_spells.mpr spells]

lemma Route.decode_nativeShell {j : Json} (shape : r.shape = .nativeShell)
    (read : Json.read? body = some j) (hasOutput : j.get? "output" = some (.str output))
    (hasErrors : j.get? "error" = some (.str errors)) :
    r.decode body = .ok ⟨true, messageOf errors, some (.str output)⟩ := by
  have isObj : j.settle.isObj = true := by
    cases j with
    | obj members => rfl
    | _ => cases hasOutput
  have output' := Json.get?_settle_eq_str.mpr hasOutput
  have errors' := Json.get?_settle_eq_str.mpr hasErrors
  have answer : Envelope.ofShell j.settle = ⟨true, messageOf errors, some (.str output)⟩ := by
    simp [Envelope.ofShell, output', errors', Json.string?, messageOf, Option.filter]
  simp only [decode, shape, read, Option.map_some, isObj, if_true, answer]

/-- What is exchanged with an interface when an operation gives an output and an error text, from
whichever route that answer comes. -/
inductive Answered (i : Interface) (o : Operation) (output errors : String) : Log → Prop
  /-- The route that both variants have answers with an envelope, in which the output is a member of the
  payload, and the error text is the message. -/
  | envelope {request : Http.Request} {status : Nat} {body : Bytes} {j data : Json}
      (request_eq : (Action.operate o).request i o.task.primary = .ok request)
      (success : 200 ≤ status ∧ status < 300)
      (read : Json.readRecord? Envelope.memberNames body = some j)
      (spells : Envelope.Spells j ⟨true, messageOf errors, some data⟩)
      (hasOutput : data.get? "output" = some (.str output)) :
      Answered i o output errors [⟨.fetch request, Http.Outcome.answered status (some body)⟩]
  /-- That route is not known, and the native shell answers with the output and the error text. -/
  | nativeShell {request request' : Http.Request} {unknown status : Nat} {body : Bytes} {j : Json}
      (content : Option Bytes)
      (request_eq : (Action.operate o).request i o.task.primary = .ok request)
      (isUnknown : unknown = 404 ∨ unknown = 405 ∨ unknown = 501)
      (request'_eq : (Action.operate o).request i o.task.native = .ok request')
      (success : 200 ≤ status ∧ status < 300)
      (read : Json.read? body = some j)
      (hasOutput : j.get? "output" = some (.str output))
      (hasErrors : j.get? "error" = some (.str errors)) :
      Answered i o output errors
        [⟨.fetch request, Http.Outcome.answered unknown content⟩,
          ⟨.fetch request', Http.Outcome.answered status (some body)⟩]

/-- Nothing is written where an interface is asked. -/
lemma Answered.written_eq_nil (h : Answered i o output errors log) (c : Channel) :
    log.written c = [] := by
  cases h <;> cases c <;> rfl

/-! ### What becomes of them -/

namespace Interface

variable {request : Http.Request}

/-- A request that is answered comes to what its route makes of the answer. -/
lemma runs_post_answered (h : (Action.operate o).request i r = .ok request) (status : Nat)
    (content : Option Bytes) :
    (i.post o.content r).Runs m [⟨.fetch request, Http.Outcome.answered status content⟩]
      ((successful (status, content)).bind r.decode) m := by
  refine runs_post.mpr ⟨.ok (status, content), runs_exchange.mpr ⟨rfl, ?_⟩, rfl⟩
  rw [show composed "POST" (i.base ++ r.path) [] (rendered r o.content) i.limit = .ok request from h]
  exact ⟨_, rfl, rfl⟩

lemma runs_post_success {status : Nat} {e : Envelope}
    (h : (Action.operate o).request i r = .ok request) (success : 200 ≤ status ∧ status < 300)
    (decodes : r.decode body = .ok e) :
    (i.post o.content r).Runs m [⟨.fetch request, Http.Outcome.answered status (some body)⟩]
      (.ok e) m := by
  have sent := runs_post_answered (m := m) h status (some body)
  rwa [successful_eq_ok.mpr ⟨success.1, success.2, rfl⟩, Except.bind, decodes] at sent

lemma runs_post_unknown {unknown : Nat} (h : (Action.operate o).request i r = .ok request)
    (isUnknown : unknown = 404 ∨ unknown = 405 ∨ unknown = 501) (content : Option Bytes) :
    (i.post o.content r).Runs m [⟨.fetch request, Http.Outcome.answered unknown content⟩]
      (.error (.ofAnswer unknown content)) m := by
  have sent := runs_post_answered (m := m) h unknown content
  obtain rfl | rfl | rfl := isUnknown <;> exact sent

end Interface

/-- After an answer that does not know its route, a command goes to the native shell. -/
lemma next_of_unknown {unknown : Nat} (isUnknown : unknown = 404 ∨ unknown = 405 ∨ unknown = 501)
    (content : Option Bytes) :
    ((Operation.exec session dir command).plan .aio).next (.ofAnswer unknown content) =
      some Task.exec.native := by
  obtain rfl | rfl | rfl := isUnknown <;> rfl

/-- Whichever route answers, the call comes to a success with the error text as its message, and with a
payload that is shown as the output. -/
lemma Answered.exists_runs_call (h : Answered i (.exec session dir command) output errors log) :
    ∃ data, (i.call ((Operation.exec session dir command).plan .aio)
        (Operation.exec session dir command).content).Runs m log ⟨true, messageOf errors, data⟩ m ∧
      shown data = output := by
  cases h with
  | envelope request_eq success read spells hasOutput =>
    have sent := Interface.runs_post_success (m := m) request_eq success
      (Route.decode_envelope rfl read spells)
    exact ⟨_, Interface.runs_call.mpr ⟨_, Plan.runs_run.mpr (.inl ⟨_, sent, rfl⟩), rfl⟩,
      shown_of_output hasOutput⟩
  | nativeShell content request_eq isUnknown request'_eq success read hasOutput hasErrors =>
    have sent := Interface.runs_post_unknown (m := m) request_eq isUnknown content
    have sent' := Interface.runs_post_success (m := m) request'_eq success
      (Route.decode_nativeShell rfl read hasOutput hasErrors)
    exact ⟨_, Interface.runs_call.mpr ⟨_, Plan.runs_run.mpr
      (.inr (.inr ⟨_, _, _, _, _, _, sent, next_of_unknown isUnknown content, sent', rfl, rfl⟩)), rfl⟩, rfl⟩

end Control

open Control

variable {h : Handle} {m m' : Memory} {past log : Log} {s : Service} {t : Target}
  {session dir command output errors : String} {world : Log → (q : Query) → q.Reply}

/-! ### The sandbox -/

/-- Nothing is written where containers are asked for. -/
lemma Query.Provisions.not_writes {q : Query} (h : q.Provisions) : ¬ q.Writes := by
  cases q with
  | print content => exact h.elim
  | complain content => exact h.elim
  | _ => exact id

/-- The first sandbox that a service gets is an open one of the variant that was asked for, and nothing
was written by then. -/
lemma Service.opened_of_runs_get (run : (s.get t.id t.variant).Runs s.memory past (.ok h) m) :
    h.variant = s.resolve t.variant ∧ h.number ∉ m.closed ∧ ∀ c, past.written c = [] := by
  have variant : (s.provider (s.resolve t.variant)).profile.variant = s.resolve t.variant := by
    cases s.resolve t.variant <;> rfl
  have miss : (s.memory.kept (s.provider (s.resolve t.variant)).profile.variant).find? t.id = none := by
    rw [Service.memory, Memory.kept_empty]
    rfl
  have quiet := Provider.confined_get.asked run
  obtain ⟨_, addresses, -, ⟨_, -, failed, -⟩ | ⟨e, -, found, rfl⟩⟩ := Provider.of_runs_get_new miss run
  · cases failed
  · cases found
    refine ⟨variant, ?_, fun c => Log.written_eq_nil fun x hx => ?_⟩
    · rw [Provider.remembering, Memory.closed_setKept]
      exact List.not_mem_nil
    · exact (quiet x hx).not_writes

namespace Command

lemma ended_eq : ended output =
    if output ≠ "" ∧ output.toList.getLast? ≠ some '\n' then output ++ "\n" else output := by
  unfold ended
  split_ifs <;> grind

lemma remark_messageOf {data : Option Json} :
    remark ⟨true, messageOf errors, data⟩ = if errors = "" then "" else errors ++ "\n" := by
  unfold remark messageOf
  split_ifs <;> rfl

/-- Doing an operation that succeeds reports its result, and nothing is left to do. -/
lemma runs_perform_success {o : Operation} {e : Envelope} (screen : Screen)
    (attached : (s.get t.id t.variant).Runs s.memory past (.ok h) m)
    (performed : (h.perform o).Runs m log e m') (success : e.success = true) :
    ((perform t o).run screen s).Runs s.memory
      (past ++ (log ++ (.writing (ended (shown e.data)) .output ++ .writing (remark e) .errors)))
      (.ok .nothing) m' := by
  have attach : (attach s t).run.Runs s.memory past (.ok h) m := runs_bind_pure.mpr ⟨_, attached, rfl⟩
  have reported := (runs_report_success (m := m') success).mpr ⟨rfl, rfl, rfl⟩
  have perform : (performOn h o).run.Runs m _ (.ok ()) m' :=
    runs_except_bind.mpr (.inl ⟨log, e, m', _, runs_except_lift.mpr ⟨e, performed, rfl⟩, reported, rfl⟩)
  refine runs_except_bind.mpr (.inl ⟨past, h, m, _, attach, ?_, rfl⟩)
  exact runs_except_bind.mpr (.inl ⟨_, (), m', [], perform, runs_except_pure.mpr ⟨rfl, rfl, rfl⟩,
    (List.append_nil _).symm⟩)

/-- Running a command in an all-in-one sandbox succeeds, and writes the same to each channel, whichever
route answers with its output and its error text. The output gets the end of its last line where that is
missing. -/
theorem written_of_exec (screen : Screen) (aio : s.resolve t.variant = .aio)
    (attached : (s.get t.id t.variant).run (answering world) s.memory [] = ((.ok h, m), past))
    (answered : Answered h.interface (.exec session dir command) output errors log)
    (follows : Follows world past log) :
    ∃ total, ((perform t (.exec session dir command)).run screen s).run (answering world) s.memory [] =
        ((.ok .nothing, m), total) ∧
      total.written .output = Text.encode
        (if output ≠ "" ∧ output.toList.getLast? ≠ some '\n' then output ++ "\n" else output) ∧
      total.written .errors = Text.encode (if errors = "" then "" else errors ++ "\n") := by
  obtain ⟨got, followed⟩ := run_answering_eq_iff.mp attached
  obtain ⟨variant, opened, quiet⟩ := Service.opened_of_runs_get got
  obtain ⟨data, called, shows⟩ := answered.exists_runs_call (m := m)
  have performed := (Handle.runs_perform_open opened).mpr (by rwa [variant, aio])
  have run := runs_perform_success screen got performed rfl
  refine ⟨_, run.run_answering ?_, ?_, ?_⟩
  · exact follows_append.mpr ⟨followed, follows_append.mpr
      ⟨follows, follows_append.mpr ⟨Log.follows_writing, Log.follows_writing⟩⟩⟩
  · simp [quiet, answered.written_eq_nil, shows, ended_eq]
  · simp [quiet, answered.written_eq_nil, remark_messageOf]

/-! ### Both answers to one command -/

/-- A world in which every container is found, and requests are answered by their paths. -/
def finding (answers : String → Http.Outcome) : Log → (q : Query) → q.Reply
  | _, .attach name => Except.ok ⟨some name, "10.0.0.7", .attached⟩
  | _, .fetch request => answers request.url.path
  | _, _ => default

/-- The container that a command is about. -/
def box : Target := ⟨"box", some .aio⟩

/-- What a command gives and writes in such a world. -/
def made (answers : String → Http.Outcome) : Except (List String) Sequel × Bytes × Bytes :=
  let ((result, _), log) :=
    ((perform box (.exec "main" "/tmp" "make")).run ⟨false⟩ ⟨.usual, .delegated⟩).run
      (answering (finding answers)) (Service.memory ⟨.usual, .delegated⟩) []
  (result, log.written .output, log.written .errors)

/-- The handle of the container that is found there. -/
def found : Handle :=
  .ofEndpoint (.aio .usual) .delegated ⟨some "box", "10.0.0.7", .attached⟩ 0

/-- An envelope. -/
def enveloped : Bytes := Text.encode
  "\x7b\"success\":true,\"message\":\"hm\",\"data\":\x7b\"output\":\"ok\"\x7d\x7d"

/-- What a native shell answers. -/
def shelled : Bytes := Text.encode "\x7b\"error\":\"hm\",\"output\":\"ok\"\x7d"

/-- Answers everything with the envelope. -/
def enveloping (_ : String) : Http.Outcome :=
  .answered 200 (some enveloped)

/-- Answers as a native shell that knows nothing else. -/
def shelling (path : String) : Http.Outcome :=
  if path = Task.exec.native.path then .answered 200 (some shelled) else .answered 404 none

/-- Output and errors are written apart, on either variant's form of the answer. -/
theorem written_of_exec_make :
    made enveloping = (.ok .nothing, Text.encode "ok\n", Text.encode "hm\n") ∧
      made shelling = (.ok .nothing, Text.encode "ok\n", Text.encode "hm\n") := by
  have attached (answers : String → Http.Outcome) : ∃ m,
      (Service.get ⟨.usual, .delegated⟩ box.id box.variant).run (answering (finding answers))
          (Service.memory ⟨.usual, .delegated⟩) [] =
        ((.ok found, m), [⟨.attach "box", Except.ok ⟨some "box", "10.0.0.7", .attached⟩⟩]) := ⟨_, rfl⟩
  have made_eq {answers : String → Http.Outcome} {log : Log}
      (answered : Answered found.interface (.exec "main" "/tmp" "make") "ok" "hm" log)
      (follows : ∀ past, Follows (finding answers) past log) :
      made answers = (.ok .nothing, Text.encode "ok\n", Text.encode "hm\n") := by
    obtain ⟨m, attached⟩ := attached answers
    obtain ⟨total, run, output, errors⟩ := written_of_exec ⟨false⟩ rfl attached answered (follows _)
    unfold made
    rw [run]
    exact congrArg₂ (fun output errors => (_, output, errors)) output errors
  have primary : Net.Url.ofText? (found.interface.base ++ Task.exec.primary.path) =
      some ⟨"http", "10.0.0.7", some 8080, "/api/v1/shell/exec", none, none⟩ := by decide +kernel
  have native : Net.Url.ofText? (found.interface.base ++ Task.exec.native.path) =
      some ⟨"http", "10.0.0.7", some 8080, "/v1/sandbox/shell", none, none⟩ := by decide +kernel
  have read : Json.readRecord? Envelope.memberNames enveloped =
      some (.obj [("success", .bool true), ("message", .str "hm"),
        ("data", .obj [("output", .str "ok")])]) := by with_unfolding_all rfl
  have read' : Json.read? shelled = some (.obj [("error", .str "hm"), ("output", .str "ok")]) := by
    with_unfolding_all rfl
  have spells : Envelope.Spells (.obj [("success", .bool true), ("message", .str "hm"),
      ("data", .obj [("output", .str "ok")])])
        ⟨true, messageOf "hm", some (.obj [("output", .str "ok")])⟩ :=
    Envelope.ofJson?_iff_spells.mp rfl
  have envelope : Answered found.interface (.exec "main" "/tmp" "make") "ok" "hm"
      [⟨.fetch _, Http.Outcome.answered 200 (some enveloped)⟩] :=
    .envelope (composed_of_ofText? primary rfl) (by decide) read spells rfl
  have shell : Answered found.interface (.exec "main" "/tmp" "make") "ok" "hm"
      [⟨.fetch _, Http.Outcome.answered 404 none⟩,
        ⟨.fetch _, Http.Outcome.answered 200 (some shelled)⟩] :=
    .nativeShell none (composed_of_ofText? primary rfl) (.inl rfl) (composed_of_ofText? native rfl)
      (by decide) read' rfl rfl
  exact ⟨made_eq envelope fun _ => ⟨rfl, trivial⟩, made_eq shell fun _ => ⟨rfl, rfl, trivial⟩⟩

end Command

end Sandboxes
