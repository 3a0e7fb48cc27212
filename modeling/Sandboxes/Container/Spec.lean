import Sandboxes.Text.Pieces

/-!
# Container specifications

What a container is made from, and templates, which are specifications that lack a name.
-/

namespace Sandboxes.Container

/-! ### Environments -/

/-- Environment variables, ordered by name and without repetitions. -/
abbrev Env := List (String × String)

/-- The environment with one variable set. -/
def Env.set (name value : String) : Env → Env
  | [] => [(name, value)]
  | (n, v) :: rest =>
    if name < n then (name, value) :: (n, v) :: rest
    else if name = n then (name, value) :: rest
    else (n, v) :: Env.set name value rest

/-- The environment with all variables of a list set, later ones over earlier ones. -/
def Env.setAll (env : Env) (assignments : List (String × String)) : Env :=
  assignments.foldl (fun env (name, value) => env.set name value) env

/-- The variables as assignments, in the order of their names. -/
def Env.assignments (env : Env) : List String :=
  env.map fun (name, value) => name ++ "=" ++ value

/-! ### Specifications -/

/-- How a container's health is checked from within. Times are in nanoseconds. -/
structure HealthCheck where
  test : List String
  interval : Int
  timeout : Int
  retries : Int
  deriving DecidableEq, Repr

/-- What a container is made from. -/
structure Spec where
  name : String
  image : String
  env : Env
  binds : List String
  /-- Ports that are published. -/
  publish : List UInt16
  securityOptions : List String
  extraHosts : List String
  sharedMemory : Option Int
  network : Option String
  healthCheck : Option HealthCheck
  autoRemove : Bool
  deriving DecidableEq, Repr

/-- What containers of a variant are made from, whatever their names. -/
structure Template where
  image : String
  env : Env
  /-- Volumes with the directories they appear at. A volume's name may hold a place for that of the
  container. -/
  volumes : List (String × String)
  publish : List UInt16
  securityOptions : List String
  extraHosts : List String
  sharedMemory : Option Int
  network : Option String
  healthCheck : Option HealthCheck
  autoRemove : Bool
  deriving DecidableEq, Repr

namespace Template

/-- Stands for the container's name in the name of a volume. -/
def nameMark : String := "\x7bname\x7d"

/-- The bind of a volume for a container of that name. -/
def bind (name : String) (volume : String × String) : String :=
  Text.replaceAll nameMark name volume.1 ++ ":" ++ volume.2 ++ ":rw"

/-- The specification of a container of that name. -/
def instantiate (t : Template) (name : String) : Spec where
  name := name
  image := t.image
  env := t.env
  binds := t.volumes.map (bind name)
  publish := t.publish
  securityOptions := t.securityOptions
  extraHosts := t.extraHosts
  sharedMemory := t.sharedMemory
  network := t.network
  healthCheck := t.healthCheck
  autoRemove := t.autoRemove

end Template

/-! ### Endpoints -/

/-- Who answers for the container behind a sandbox. -/
inductive Ownership
  /-- It was launched here. -/
  | created
  /-- It was found by its name. -/
  | attached
  /-- It is managed elsewhere and never torn down here. -/
  | external
  deriving DecidableEq, Repr

/-- The word for an ownership. -/
def Ownership.name : Ownership → String
  | created => "created"
  | attached => "attached"
  | external => "external"

/-- Where a container is reached. -/
structure Endpoint where
  name : Option String
  host : String
  ownership : Ownership
  deriving DecidableEq, Repr

end Sandboxes.Container
