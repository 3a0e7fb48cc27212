import Sandboxes.Docker.Request
import Sandboxes.Failure
import Sandboxes.Http
import Sandboxes.Memory

/-!
# Programs

A program is a tree of what is asked of the world outside and of the memory, one step at a time,
each with what follows for every reply. Running it needs only someone who answers the questions.
-/

namespace Sandboxes

/-- A question to the world outside. -/
inductive Query
  /-- Sends a request to a web server. -/
  | fetch (request : Http.Request)
  /-- Looks whether there is a Docker daemon to talk to. -/
  | findDocker
  /-- Sends a request to the Docker daemon. -/
  | docker (request : Docker.Request)
  /-- Has the container runtime outside launch a container. -/
  | launch (spec : Container.Spec)
  /-- Has the container runtime outside find a container. -/
  | attach (name : String)
  /-- Has the container runtime outside remove a container. -/
  | remove (name : String)
  /-- Looks up the first address of a host. -/
  | lookUp (host : String)
  /-- Lets time pass. -/
  | pause (time : Duration)
  /-- Reads a clock, in nanoseconds. -/
  | clock
  /-- Draws a number. -/
  | draw
  /-- Reads an environment variable. -/
  | environment (name : String)
  /-- Asks for the user's directory of settings. -/
  | settingsHome
  /-- Asks whether there is a file. -/
  | hasFile (path : String)
  /-- Reads a file. -/
  | load (path : String)
  /-- Makes an empty file. -/
  | create (path : String)
  /-- Fills a file. -/
  | store (path : String) (content : Bytes)
  /-- Reads the input to its end. -/
  | input
  /-- Writes to the output. -/
  | print (content : Bytes)
  /-- Writes to the error output. -/
  | complain (content : Bytes)

/-- What the world outside may reply. The text of a failure is the world's own. -/
abbrev Query.Reply : Query → Type
  | fetch _ => Http.Outcome
  | findDocker => Except String Unit
  | docker _ => Except String Docker.Answer
  | launch _ | attach _ => Except Failure Container.Endpoint
  | remove _ => Except Failure Unit
  | lookUp _ => Option Ipv4
  | pause _ | print _ | complain _ => Unit
  | clock => Nat
  | draw => UInt32
  | environment _ | settingsHome => Option String
  | hasFile _ => Bool
  | load _ | input => Except String Bytes
  | create _ | store _ _ => Except String Unit

/-- A computation that asks questions and remembers. -/
inductive Program (α : Type) : Type
  | done (a : α)
  | ask (q : Query) (next : q.Reply → Program α)
  | remember (s : Memory.Step) (next : s.Result → Program α)

namespace Program

variable {α β : Type}

/-- Goes on with `f` where `p` is done. -/
def bind : Program α → (α → Program β) → Program β
  | done a, f => f a
  | ask q next, f => ask q fun r => (next r).bind f
  | remember s next, f => remember s fun r => (next r).bind f

instance : Monad Program where
  pure := done
  bind := bind

/-- The reply to a question. -/
def query (q : Query) : Program q.Reply :=
  ask q done

/-- What a step of the memory tells. -/
def step (s : Memory.Step) : Program s.Result :=
  remember s done

/-- Runs a program with someone who answers its questions. -/
def run {m : Type → Type} [Monad m] (answer : (q : Query) → m q.Reply) :
    Program α → Memory → m (α × Memory)
  | done a, memory => pure (a, memory)
  | ask q next, memory => do
    let reply ← answer q
    (next reply).run answer memory
  | remember s next, memory =>
    let told := s.apply memory
    (next told.1).run answer told.2

end Program

end Sandboxes
