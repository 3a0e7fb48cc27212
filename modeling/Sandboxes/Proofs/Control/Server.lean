import Sandboxes.Proofs.Control.Runs

/-!
# Servers

A server that answers every request as it likes, and may look at all requests before it. What a call
sends to such a server and what it gives are functions of the requests so far.
-/

namespace Sandboxes

namespace Http

/-- The request as a server sees it, which is not told how long the answer may take. -/
def Request.untimed (r : Request) : Request :=
  { r with limit := .ofSeconds 0 }

/-- A server, by what becomes of each request. The requests so far are given, the present one last. -/
abbrev Server := List Request → Outcome

/-- Someone who has requests answered by the server, and knows nothing else. -/
def Server.answer (server : Server) : (q : Query) → StateM (List Request) q.Reply
  | .fetch r => fun past => (server (past ++ [r.untimed]), past ++ [r.untimed])
  | _ => pure default

end Http

namespace Program

variable {α β : Type} {server : Http.Server} {past : List Http.Request} {m : Memory}

/-- Of two programs in turn, the second one finds the memory and the requests that the first left. -/
lemma run_bind {p : Program α} {f : α → Program β} :
    (p >>= f).run server.answer m past =
      let ((a, m'), requests) := p.run server.answer m past
      (f a).run server.answer m' requests := by
  change (p.bind f).run server.answer m past = _
  induction p generalizing m past with
  | done a => rfl
  | ask q next ih => exact ih _
  | remember s next ih => exact ih _

lemma run_bind_pure {p : Program α} {f : α → β} :
    (p >>= fun a => pure (f a)).run server.answer m past =
      let ((a, m'), requests) := p.run server.answer m past
      ((f a, m'), requests) :=
  run_bind

end Program

namespace Control

open Program

variable {α β : Type} {server : Http.Server} {past : List Http.Request} {m : Memory}

/-! ### Single requests -/

/-- What the server makes of a request, if there is one, and the requests by then. -/
def received (server : Http.Server) (past : List Http.Request) :
    Except Fault Http.Request → Except Fault (Nat × Option Bytes) × List Http.Request
  | .error fault => (.error fault, past)
  | .ok r => (outcomeOf r (server (past ++ [r.untimed])), past ++ [r.untimed])

section Exchange

variable {method address : String} {fields : List (String × String)} {content : Http.Content}
  {limit other : Duration}

/-- How long the answer may take makes no difference. -/
lemma received_composed :
    received server past (composed method address fields content limit) =
      received server past (composed method address fields content other) := by
  unfold composed
  cases Net.Url.ofText? address with
  | none => rfl
  | some url =>
    dsimp only
    split <;> rfl

lemma run_exchange :
    (exchange method address fields content limit).run server.answer m past =
      let (sent, requests) := received server past (composed method address fields content limit)
      ((sent, m), requests) := by
  rw [exchange_eq]
  cases composed method address fields content limit <;> rfl

end Exchange

/-! ### Calls along a plan -/

namespace Plan

variable {p : Plan} {call : Route → Program (Except Fault α)}

/-- Trying routes goes along with a change of what they give. -/
lemma run_map {f : α → β} :
    (p.run fun route => call route >>= fun out => pure (out.map f)) =
      p.run call >>= fun out => pure (out.map f) := by
  rw [run_eq, run_eq, bind_assoc, bind_assoc]
  refine congrArg (call p.primary >>= ·) (funext fun out => ?_)
  cases out with
  | ok a => rfl
  | error first =>
    rw [pure_bind]
    dsimp only [Except.map]
    cases p.next first with
    | none => rfl
    | some route =>
      dsimp only
      rw [bind_assoc, bind_assoc]
      refine congrArg (call route >>= ·) (funext fun second => ?_)
      cases second <;> rfl

/-- What a call along a plan comes to with a server, by what its single attempts come to after some
requests. -/
def settled (p : Plan) (tried : List Http.Request → Route → Except Fault α × List Http.Request)
    (past : List Http.Request) : Except String α × List Http.Request :=
  match tried past p.primary with
  | (.ok a, sent) => (.ok a, sent)
  | (.error first, sent) =>
    match p.next first with
    | none => (.error (p.givenUp first), sent)
    | some route =>
      let (second, sent) := tried sent route
      (p.afterBoth first second, sent)

lemma run_served {tried : List Http.Request → Route → Except Fault α × List Http.Request}
    (h : ∀ past route, (call route).run server.answer m past =
      (((tried past route).1, m), (tried past route).2)) :
    (p.run call).run server.answer m past =
      (((p.settled tried past).1, m), (p.settled tried past).2) := by
  rw [run_eq, run_bind, h, settled]
  dsimp only
  obtain ⟨first, sent⟩ := tried past p.primary
  cases first with
  | ok a => rfl
  | error first =>
    dsimp only
    cases p.next first with
    | none => rfl
    | some route =>
      dsimp only
      rw [run_bind_pure, h]

end Plan

end Control

end Sandboxes
