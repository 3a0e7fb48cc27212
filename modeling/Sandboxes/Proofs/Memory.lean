import Mathlib.Tactic.Lemma
import Sandboxes.Memory

/-!
# Numbers of handles

Handles are numbered in the order in which they are made. A memory is numbered if only handles that
were made are closed, so that the next handle is open.
-/

namespace Sandboxes.Memory

/-- Only handles that were made are closed. -/
def Numbered (m : Memory) : Prop :=
  ∀ n ∈ m.closed, n < m.made

variable {m : Memory}

lemma numbered_empty (handles hosts : Nat) : (empty handles hosts).Numbered :=
  fun _ h => absurd h List.not_mem_nil

/-- The next handle is open. -/
lemma Numbered.made_not_mem (h : m.Numbered) : m.made ∉ m.closed :=
  fun hm => Nat.lt_irrefl _ (h _ hm)

@[simp] lemma closed_setKept (v : Variant) (handles : Recent String Handle) :
    (m.setKept v handles).closed = m.closed := by
  cases v <;> rfl

@[simp] lemma made_setKept (v : Variant) (handles : Recent String Handle) :
    (m.setKept v handles).made = m.made := by
  cases v <;> rfl

namespace Step

/-- Only closing a handle changes which ones are closed. -/
@[simp] lemma closed_apply (s : Step) :
    (s.apply m).2.closed = match s with
      | .close n => n :: m.closed
      | _ => m.closed := by
  cases s <;> simp [apply]

/-- Only taking a number changes how many handles were made. -/
@[simp] lemma made_apply (s : Step) :
    (s.apply m).2.made = match s with
      | .number => m.made + 1
      | _ => m.made := by
  cases s <;> simp [apply]

/-- Another step than closing a handle leaves it open or closed. -/
lemma mem_closed_apply {s : Step} {n : Nat} (h : s ≠ .close n) :
    n ∈ (s.apply m).2.closed ↔ n ∈ m.closed := by
  cases s with
  | close k =>
    have ne : n ≠ k := fun hk => h (hk ▸ rfl)
    simp [ne]
  | _ => simp

end Step

/-- Every step that closes no handle of the future keeps the numbering. -/
lemma Numbered.apply (h : m.Numbered) (s : Step) (made : ∀ n, s = .close n → n < m.made) :
    (s.apply m).2.Numbered := by
  intro n hn
  cases s with
  | number =>
    simp only [Step.closed_apply] at hn
    simpa using Nat.lt_succ_of_lt (h n hn)
  | close k =>
    simp only [Step.closed_apply, List.mem_cons] at hn
    simp only [Step.made_apply]
    rcases hn with rfl | hn
    · exact made n rfl
    · exact h n hn
  | _ =>
    simp only [Step.closed_apply] at hn
    simpa using h n hn

end Sandboxes.Memory
