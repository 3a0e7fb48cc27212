import Sandboxes.Proofs.Docker.Cleanup

/-!
# The course of a launch

Launching a container takes steps in a fixed order, each of which is one request to the daemon, and
ends with the first one that fails. An image that the daemon does not know is fetched, and a container
that was created but does not come up is removed again. `requests_of_launch` tells the course of any
launch by what the daemon replied.
-/

namespace Sandboxes.Docker

open Program Container

/-- What went wrong, if anything. -/
def errorOf {ε α : Type} : Except ε α → Option ε
  | .ok _ => none
  | .error e => some e

/-! ### Progress messages -/

/-- What the progress messages of a stream say, one after the other. A fault ends the stream. -/
def messagesOf : (held : Option Bytes) → List Bytes → List (Except Fault Unit)
  | _, [] => []
  | held, line :: rest =>
    let line := held.getD [] ++ line
    match lineOf line with
    | .fine => .ok () :: messagesOf (held.map fun _ => []) rest
    | .failed fault => [.error fault]
    | .blank =>
      if line = [] ∧ (rest = [] ∨ rest = [[]]) then []
      else if rest = [] ∨ held.isSome then [.error .cut]
      else messagesOf (some line) rest

/-- What comes back while an image is fetched: a refusal, or progress messages. -/
def messages (reply : Except String Answer) : List (Except Fault Unit) :=
  match verdict reply with
  | .error fault => [.error fault]
  | .ok body => messagesOf none (Text.fields 10 body)

/-- A step of launching a container. -/
inductive Stage
  | ping
  | imageInspection
  | pull
  | creation
  | start
  | inspection
  deriving DecidableEq, Repr

def Stage.request (spec : Spec) : Stage → Request
  | ping => .ping
  | imageInspection => .imageInspection spec.image
  | pull => .pull spec.image
  | creation => .creation spec.name (.ofSpec spec)
  | start => .start spec.name
  | inspection => .inspection spec.name

/-- A step that was taken, with the daemon's reply. -/
structure Step where
  stage : Stage
  reply : Except String Answer

/-- Whether the daemon answered that there is no such thing. -/
def isMissing : Except String Answer → Bool
  | .ok answer => answer.status = 404
  | .error _ => false

namespace Step

def exchange (spec : Spec) (s : Step) : Exchange :=
  ⟨.docker (s.stage.request spec), s.reply⟩

/-- The networks that the daemon tells of. -/
def networks (reply : Except String Answer) : Except Fault Networks :=
  (verdict reply).bind (reading Networks.ofJson?)

/-- The address that a step discovers. -/
def address? : Step → Option String
  | ⟨.inspection, reply⟩ =>
    match networks reply with
    | .ok networks => networks.reachable?
    | .error _ => none
  | _ => none

/-- Why a step fails, if it does. An image that is missing is no failure, a container that is missing
or has no address is one, and so is any message of a fault while the image is fetched. -/
def failure? (spec : Spec) : Step → Option Failure
  | ⟨.ping, reply⟩ => (errorOf (verdict reply)).map fun fault =>
    .dockerUnavailable ("Cannot ping Docker daemon: " ++ fault.message)
  | ⟨.imageInspection, reply⟩ =>
    if isMissing reply then none
    else (errorOf ((verdict reply).bind (reading fun j => if j.isObj then some () else none))).map
      fun fault => .provision ("Failed to inspect image " ++ spec.image ++ ": " ++ fault.message)
  | ⟨.pull, reply⟩ => ((messages reply).findSome? errorOf).map fun fault =>
    .provision ("Error pulling image " ++ spec.image ++ ": " ++ fault.message)
  | ⟨.creation, reply⟩ => (errorOf ((verdict reply).bind (reading created?))).map fun fault =>
    .provision ("Failed to create container " ++ spec.name ++ ": " ++ fault.message)
  | ⟨.start, reply⟩ => (errorOf (verdict reply)).map fun fault =>
    .provision ("Failed to start container " ++ spec.name ++ ": " ++ fault.message)
  | ⟨.inspection, reply⟩ =>
    if isMissing reply then some (.notFound spec.name)
    else match networks reply with
      | .error fault =>
        some (.provision ("Failed to inspect container " ++ spec.name ++ ": " ++ fault.message))
      | .ok networks =>
        if networks.reachable?.isSome then none
        else some (.provision ("Container " ++ spec.name ++ " has no IP address"))

end Step

/-- The steps that see to the image: it is looked for, and fetched if it is missing. -/
def imageStages (missing : Bool) : List Stage :=
  .imageInspection :: if missing then [.pull] else []

/-- The steps up to the creation of the container. -/
def earlyStages (missing : Bool) : List Stage :=
  .ping :: imageStages missing ++ [.creation]

/-- The steps of a launch in their order. -/
def stages (missing : Bool) : List Stage :=
  earlyStages missing ++ [.start, .inspection]

/-- Whether the daemon answered that it does not know the image. -/
def imageMissing (steps : List Step) : Bool :=
  steps.any fun s => s.stage = .imageInspection && isMissing s.reply

/-- Whether the container was created, and then did not start or was not found with an address. -/
def undone (spec : Spec) (steps : List Step) : Bool :=
  (steps.any fun s => s.stage = .creation && (s.failure? spec).isNone) &&
    steps.any fun s => (s.stage = .start || s.stage = .inspection) && (s.failure? spec).isSome

/-! ### Steps in their order -/

section Follows

variable {spec : Spec} {stages : List Stage} {steps : List Step} {failed : Option Failure}
  {step : Step} {failure : Failure}

/-- The steps are those that are due, up to the first one that fails. -/
inductive Follows (spec : Spec) : List Stage → List Step → Option Failure → Prop
  | done : Follows spec [] [] none
  | fail {step : Step} {stages : List Stage} {failure : Failure}
      (fails : step.failure? spec = some failure) :
      Follows spec (step.stage :: stages) [step] (some failure)
  | next {step : Step} {stages : List Stage} {steps : List Step} {failed : Option Failure}
      (passes : step.failure? spec = none) (rest : Follows spec stages steps failed) :
      Follows spec (step.stage :: stages) (step :: steps) failed

lemma Follows.isPrefix (h : Follows spec stages steps failed) : steps.map Step.stage <+: stages := by
  induction h with
  | done => exact List.prefix_rfl
  | fail fails => simp
  | next passes rest ih => simpa using ih

lemma Follows.passes (h : Follows spec stages steps failed) :
    ∀ s ∈ steps.dropLast, s.failure? spec = none := by
  induction h with
  | done => simp
  | fail fails => simp
  | @next step stages steps failed passes rest ih =>
    cases steps with
    | nil => simp
    | cons s steps =>
      intro t ht
      rcases List.mem_cons.mp ht with rfl | ht
      · exact passes
      · exact ih t ht

lemma Follows.findSome?_failure? (h : Follows spec stages steps failed) :
    steps.findSome? (·.failure? spec) = failed := by
  induction h with
  | done => rfl
  | fail fails => simp [fails]
  | next passes rest ih => simpa [passes] using ih

lemma Follows.complete (h : Follows spec stages steps none) : steps.map Step.stage = stages := by
  generalize hf : (none : Option Failure) = failed at h
  induction h with
  | done => rfl
  | fail fails => cases hf
  | next passes rest ih => simpa using ih hf

lemma Follows.append {stages' : List Stage} {steps' : List Step}
    (h : Follows spec stages steps none) (rest : Follows spec stages' steps' failed) :
    Follows spec (stages ++ stages') (steps ++ steps') failed := by
  generalize hf : (none : Option Failure) = passed at h
  induction h with
  | done => exact rest
  | fail fails => cases hf
  | next passes _ ih => exact .next passes (ih hf)

lemma Follows.single (step : Step) : Follows spec [step.stage] [step] (step.failure? spec) := by
  cases h : step.failure? spec with
  | none => exact .next h .done
  | some failure => exact .fail h

lemma Follows.mem (h : Follows spec stages steps failed) {s : Step} (hs : s ∈ steps) :
    s.stage ∈ stages :=
  h.isPrefix.subset (List.mem_map_of_mem hs)

end Follows

/-! ### Steps that programs take -/

section Taken

variable {α : Type} {spec : Spec} {due due' : List Stage} {steps steps' : List Step}
  {failed : Option Failure} {failure : Failure} {m m' : Memory} {log log' : Log}

/-- A log of steps that follow those that are due. -/
structure Taken (spec : Spec) (due : List Stage) (steps : List Step) (log : Log)
    (failed : Option Failure) : Prop where
  log_eq : log = steps.map (Step.exchange spec)
  follows : Follows spec due steps failed

lemma Taken.append (h : Taken spec due steps log none) (h' : Taken spec due' steps' log' failed) :
    Taken spec (due ++ due') (steps ++ steps') (log ++ log') failed :=
  ⟨by rw [h.log_eq, h'.log_eq, List.map_append], h.follows.append h'.follows⟩

/-- The course of launching a container with a daemon that could be talked to at first: the steps that
were taken, and the log of what was done after one that failed. -/
structure Course (spec : Spec) (steps : List Step) (cleanup log : Log)
    (out : Except Failure Endpoint) : Prop where
  log_eq : log = ⟨.findDocker, Except.ok ()⟩ :: (steps.map (Step.exchange spec) ++ cleanup)
  /-- The steps come in their order, -/
  order : steps.map Step.stage <+: stages (imageMissing steps)
  /-- none but the last may fail, -/
  passes : ∀ s ∈ steps.dropLast, s.failure? spec = none
  /-- its failure is that of the launch, and if there is none, then all steps were taken. -/
  result : match steps.findSome? (·.failure? spec) with
    | some failure => out = .error failure
    | none => steps.map Step.stage = stages (imageMissing steps) ∧
        ∃ host, steps.findSome? Step.address? = some host ∧
          out = .ok ⟨some spec.name, host, .created⟩
  /-- A container that was created in vain is discarded, -/
  cleanup : if undone spec steps then Discards spec.name cleanup else cleanup = []
  /-- so that these are the requests while the daemon can be talked to. -/
  requests : log.Connected → log.requests = steps.map (·.stage.request spec) ++
    if undone spec steps then [.removal spec.name] else []

lemma requests_of_discards {name : String} (h : Discards name log) (connected : log.Connected) :
    log.requests = [.removal name] := by
  cases h with
  | asked reply => rfl
  | gone reason => cases connected _ (List.mem_singleton.mpr rfl)

lemma requests_steps (spec : Spec) (steps : List Step) :
    Log.requests (steps.map (Step.exchange spec)) = steps.map (·.stage.request spec) := by
  induction steps with
  | nil => rfl
  | cons s steps ih => exact congrArg _ ih

/-- Steps that follow those of a launch are its course. -/
lemma Taken.course {cleanup : Log} {out : Except Failure Endpoint}
    (h : Taken spec (stages (imageMissing steps)) steps log failed)
    (hf : ∀ failure, failed = some failure → out = .error failure)
    (hs : failed = none → ∃ host, steps.findSome? Step.address? = some host ∧
      out = .ok ⟨some spec.name, host, .created⟩)
    (hc : if undone spec steps then Discards spec.name cleanup else cleanup = []) :
    Course spec steps cleanup (⟨.findDocker, Except.ok ()⟩ :: (log ++ cleanup)) out where
  log_eq := by rw [h.log_eq]
  order := h.follows.isPrefix
  passes := h.follows.passes
  result := by
    rw [h.follows.findSome?_failure?]
    cases failed with
    | none => exact ⟨h.follows.complete, hs rfl⟩
    | some failure => exact hf failure rfl
  cleanup := hc
  requests connected := by
    have rest : Log.requests cleanup = if undone spec steps then [.removal spec.name] else [] := by
      by_cases hu : undone spec steps
      · simp only [hu, if_true] at hc ⊢
        refine requests_of_discards hc fun r hr => connected r ?_
        exact List.mem_cons_of_mem _ (List.mem_append_right _ hr)
      · simp only [hu] at hc ⊢
        rw [hc]
        rfl
    calc
      _ = Log.requests log ++ Log.requests cleanup := Log.requests_append
      _ = _ := by rw [h.log_eq, requests_steps, rest]

end Taken

end Sandboxes.Docker
