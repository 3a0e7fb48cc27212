import Sandboxes.Proofs.Docker.Cleanup
import Sandboxes.Proofs.Memory

/-!
# Provisioning and the memory

Launching, finding and removing containers remembers nothing but addresses of host names, in each of
the ways that containers can come about.
-/

namespace Sandboxes

open Program

/-- Steps that are about addresses of host names only. -/
def Memory.Step.IsAddress : Memory.Step → Prop
  | .findAddress _ | .keepAddress _ _ => True
  | _ => False

namespace Program

variable {α : Type} {p : Program α} {m m' : Memory} {log : Log} {a : α}

/-- The program remembers nothing but addresses. -/
structure Steady (p : Program α) : Prop where
  confined : p.Confined (fun _ => True) Memory.Step.IsAddress

/-- Such a program changes nothing but addresses. -/
lemma Steady.exists_addresses (h : p.Steady) (run : p.Runs m log a m') :
    ∃ addresses, m' = { m with addresses } := by
  refine h.confined.kept (I := fun m' => ∃ addresses, m' = { m with addresses }) ?_ run ⟨_, rfl⟩
  rintro s _ hs ⟨addresses, rfl⟩
  cases s with
  | findAddress host => exact ⟨_, rfl⟩
  | keepAddress host address => exact ⟨_, rfl⟩
  | _ => exact hs.elim

lemma steady_of_confined {Q : Query → Prop} (h : p.Confined Q fun _ => False) : p.Steady :=
  ⟨h.any.mono (fun _ h => h) fun _ => False.elim⟩

end Program

/-! ### On the Docker daemon -/

/-- Questions about containers and where they are reached. -/
def Query.Provisions : Query → Prop
  | .findDocker | .docker _ | .launch _ | .attach _ | .remove _ | .lookUp _ => True
  | _ => False

namespace Docker

lemma confined_startOrDiscard (name : String) :
    (startOrDiscard name).Confined Query.Provisions fun _ => False := by
  refine (confined_startContainer ⟨⟩ ⟨⟩).bind fun out => ?_
  cases out with
  | ok host => exact .done _
  | error failure => exact (confined_removeContainer ⟨⟩ ⟨⟩).bind_pure

lemma confined_launch (spec : Container.Spec) :
    (launch spec).Confined Query.Provisions fun _ => False := by
  have pings : ping.Confined Query.Provisions fun _ => False := confined_request ⟨⟩
  have creates : (create spec.name (.ofSpec spec)).Confined Query.Provisions fun _ => False :=
    confined_request ⟨⟩
  refine Confined.except_bind (confined_connect ⟨⟩) fun _ => ?_
  refine Confined.except_bind pings.bind_pure fun _ => ?_
  refine Confined.except_bind (confined_ensureImage ⟨⟩ ⟨⟩) fun _ => ?_
  refine Confined.except_bind creates.bind_pure fun _ => ?_
  exact Confined.except_bind (confined_startOrDiscard spec.name) fun _ => .done _

lemma confined_attach (name : String) :
    (attach name).Confined Query.Provisions fun _ => False := by
  refine Confined.except_bind (confined_connect ⟨⟩) fun _ => ?_
  exact Confined.except_bind (confined_addressOf ⟨⟩) fun _ => .done _

end Docker

/-! ### In each way -/

/-- Finding where a host is asks for nothing but its address. -/
lemma confined_hostFor {Q : Query → Prop} (host : String) (looked : Q (.lookUp host)) :
    (hostFor host).Confined Q Memory.Step.IsAddress := by
  refine Confined.bind ?_ fun address => ?_
  · unfold resolve
    split
    · exact .done _
    · refine .remember ⟨⟩ fun known => ?_
      cases known with
      | some known => exact .done _
      | none => exact .ask looked fun found => .remember ⟨⟩ fun _ => .done _
  · cases address <;> exact .done _

namespace Provisioner

variable (p : Provisioner)

lemma confined_launch (spec : Container.Spec) :
    (p.launch spec).Confined Query.Provisions Memory.Step.IsAddress := by
  cases p with
  | delegated => exact confined_query.mpr trivial
  | docker => exact (Docker.confined_launch spec).mono (fun _ h => h) fun _ => False.elim
  | fixed address => exact (confined_hostFor address trivial).bind_pure

lemma steady_launch (spec : Container.Spec) : (p.launch spec).Steady :=
  ⟨(p.confined_launch spec).any⟩

lemma confined_attach (name : String) :
    (p.attach name).Confined Query.Provisions Memory.Step.IsAddress := by
  cases p with
  | delegated => exact confined_query.mpr trivial
  | docker => exact (Docker.confined_attach name).mono (fun _ h => h) fun _ => False.elim
  | fixed address => exact (confined_hostFor address trivial).bind_pure

lemma steady_attach (name : String) : (p.attach name).Steady :=
  ⟨(p.confined_attach name).any⟩

lemma confined_remove (name : String) :
    (p.remove name).Confined Query.Provisions fun _ => False := by
  cases p with
  | delegated => exact confined_query.mpr trivial
  | docker => exact Docker.confined_removeContainer trivial trivial
  | fixed address => exact .done _

end Provisioner

end Sandboxes
