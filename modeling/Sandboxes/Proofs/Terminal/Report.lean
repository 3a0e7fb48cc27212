import Sandboxes.Proofs.Json.Settle
import Sandboxes.Proofs.Program.Runs
import Sandboxes.Proofs.Text.Utf8
import Sandboxes.Terminal.Report

/-!
# What is written

What was written to the output and to the error output is read off a log. `runs_report` says what the
report of a result writes there.
-/

namespace Sandboxes

open Program

/-! ### Written texts -/

/-- Where a text may be written to. -/
inductive Channel
  | output
  | errors
  deriving DecidableEq, Repr

/-- Questions that write something. -/
def Query.Writes : Query → Prop
  | .print _ | .complain _ => True
  | _ => False

/-- What an exchange writes to a channel. -/
def Exchange.written (x : Exchange) (c : Channel) : Bytes :=
  match c, x.query with
  | .output, .print content | .errors, .complain content => content
  | _, _ => []

/-- Writing some bytes to a channel. -/
def Exchange.writing (content : Bytes) : Channel → Exchange
  | .output => ⟨.print content, ()⟩
  | .errors => ⟨.complain content, ()⟩

namespace Log

/-- All that was written to a channel. -/
def written (log : Log) (c : Channel) : Bytes :=
  log.flatMap (·.written c)

/-- A text is written to a channel, unless there is none. -/
def writing (text : String) (c : Channel) : Log :=
  if text = "" then [] else [.writing (Text.encode text) c]

variable {log log' : Log} {text : String} {c c' : Channel}

@[simp] lemma written_append : (log ++ log').written c = log.written c ++ log'.written c :=
  List.flatMap_append

lemma written_eq_nil (h : ∀ x ∈ log, ¬ x.query.Writes) : log.written c = [] := by
  refine List.flatMap_eq_nil_iff.mpr fun ⟨q, r⟩ hx => ?_
  have quiet := h _ hx
  cases q <;> first | exact (quiet trivial).elim | cases c <;> rfl

/-- What is written to one channel does not show on the other one. -/
@[simp] lemma written_writing :
    (writing text c).written c' = if c = c' then Text.encode text else [] := by
  unfold writing
  split
  · subst text
    simp [written]
  · cases c <;> cases c' <;> simp [written, Exchange.written, Exchange.writing]

/-- No world has a choice when something is written. -/
lemma follows_writing {world : Log → (q : Query) → q.Reply} {past : Log} :
    Follows world past (writing text c) := by
  unfold writing
  split
  · exact trivial
  · cases c <;> exact ⟨rfl, trivial⟩

end Log

namespace Terminal

open Control

variable {m m' : Memory} {log : Log} {text : String}

lemma runs_printText : (printText text).Runs m log () m' ↔ log = .writing text .output ∧ m' = m := by
  unfold printText Log.writing
  split <;> simp [Exchange.writing]

lemma runs_complainText :
    (complainText text).Runs m log () m' ↔ log = .writing text .errors ∧ m' = m := by
  unfold complainText Log.writing
  split <;> simp [Exchange.writing]

/-! ### Reports -/

/-- The output of a shell is shown as it is. -/
lemma shown_of_output {data : Json} {output : String} (h : data.get? "output" = some (.str output)) :
    shown (some data) = output := by
  cases data with
  | obj members =>
    have : (Json.obj members).get "output" = .str output := by rw [Json.get, h, Option.getD_some]
    simp [shown, this, Json.string?]
  | _ => cases h

/-- What is written to the error output of a success. -/
def remark (e : Envelope) : String :=
  (e.message.map (· ++ "\n")).getD ""

/-- The report of a success writes its payload, and its message to the error output. -/
lemma runs_report_success {e : Envelope} {r : Except (List String) Unit} (success : e.success = true) :
    (report e).Runs m log r m' ↔
      log = .writing (ended (shown e.data)) .output ++ .writing (remark e) .errors ∧ r = .ok () ∧ m' = m := by
  simp only [report, success, if_true, runs_bind, runs_pure]
  constructor
  · rintro ⟨_, _, _, _, print, ⟨_, _, _, _, complain, ⟨rfl, rfl, rfl⟩, rfl⟩, rfl⟩
    obtain ⟨rfl, rfl⟩ := runs_printText.mp print
    obtain ⟨rfl, rfl⟩ := runs_complainText.mp complain
    exact ⟨by rw [List.append_nil]; rfl, rfl, rfl⟩
  · rintro ⟨rfl, rfl, rfl⟩
    exact ⟨_, (), m', _, runs_printText.mpr ⟨rfl, rfl⟩,
      ⟨_, (), m', [], runs_complainText.mpr ⟨rfl, rfl⟩, ⟨rfl, rfl, rfl⟩, (List.append_nil _).symm⟩, rfl⟩

end Terminal

end Sandboxes
