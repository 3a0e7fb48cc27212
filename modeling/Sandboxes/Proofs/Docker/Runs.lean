import Sandboxes.Proofs.Docker.Requests
import Sandboxes.Proofs.Program.Confinement
import Sandboxes.Provisioner

/-!
# Runs on the Docker daemon

What each step of launching, finding and removing a container exchanges with the daemon, and what the
daemon's replies make of it. None of these steps touches the memory.
-/

namespace Sandboxes.Docker

open Program

variable {α : Type} {m m' : Memory} {log : Log}

/-! ### Single requests -/

/-- What a reply of the daemon comes to. -/
def verdict : Except String Answer → Except Fault Bytes
  | .error reason => .error (.broken reason)
  | .ok answer =>
    if succeeded answer.status then .ok answer.body
    else .error (.refused answer.status (wordsOf answer.body))

lemma runs_request {r : Request} {out : Except Fault Bytes} :
    (request r).Runs m log out m' ↔
      ∃ reply, log = [⟨.docker r, reply⟩] ∧ out = verdict reply ∧ m' = m := by
  simp only [request, runs_bind, runs_query]
  constructor
  · rintro ⟨_, reply, _, _, ⟨rfl, rfl⟩, h, rfl⟩
    refine ⟨reply, ?_⟩
    cases reply with
    | error reason => simp_all [verdict]
    | ok answer =>
      dsimp only [verdict] at h ⊢
      split at h <;> simp_all
  · rintro ⟨reply, rfl, rfl, rfl⟩
    refine ⟨_, reply, _, [], ⟨rfl, rfl⟩, ?_, rfl⟩
    cases reply with
    | error reason => simp [verdict]
    | ok answer =>
      dsimp only [verdict]
      split <;> simp

lemma runs_request_map {r : Request} {f : Except Fault Bytes → α} {out : α} :
    (request r >>= fun a => pure (f a)).Runs m log out m' ↔
      ∃ reply, log = [⟨.docker r, reply⟩] ∧ out = f (verdict reply) ∧ m' = m := by
  rw [runs_bind_pure]
  constructor
  · rintro ⟨_, h, rfl⟩
    obtain ⟨reply, hlog, rfl, hm⟩ := runs_request.mp h
    exact ⟨reply, hlog, rfl, hm⟩
  · rintro ⟨reply, hlog, rfl, hm⟩
    exact ⟨_, runs_request.mpr ⟨reply, hlog, rfl, hm⟩, rfl⟩

/-- A single request is all that is asked, whatever is made of the reply. -/
lemma confined_request {r : Request} {f : Except Fault Bytes → α} {Q : Query → Prop}
    (h : Q (.docker r)) : (request r >>= fun out => pure (f out)).Confined Q fun _ => False := by
  refine Confined.bind_pure (Confined.bind (confined_query.mpr h) fun reply => ?_)
  cases reply with
  | error reason => exact .done _
  | ok answer =>
    dsimp only
    split <;> exact .done _

lemma runs_create {name : String} {c : Container.Creation} {out : Except Fault Unit} :
    (create name c).Runs m log out m' ↔
      ∃ reply, log = [⟨.docker (.creation name c), reply⟩] ∧
        out = (verdict reply).bind (reading created?) ∧ m' = m :=
  runs_request_map

lemma runs_remove {name : String} {out : Except Fault Unit} :
    (remove name).Runs m log out m' ↔
      ∃ reply, log = [⟨.docker (.removal name), reply⟩] ∧
        out = (verdict reply).map (fun _ => ()) ∧ m' = m :=
  runs_request_map

lemma runs_connect {out : Except Failure Unit} :
    connect.Runs m log out m' ↔
      ∃ reply, log = [⟨.findDocker, reply⟩] ∧
        out = reply.mapError (fun reason => .dockerUnavailable (reason ++ ". Is Docker running?")) ∧
        m' = m := by
  simp only [connect, runs_bind_pure, runs_query]
  constructor
  · rintro ⟨reply, ⟨hlog, hm⟩, hout⟩
    exact ⟨reply, hlog, hout, hm⟩
  · rintro ⟨reply, hlog, hout, hm⟩
    exact ⟨reply, ⟨hlog, hm⟩, hout⟩

end Sandboxes.Docker
