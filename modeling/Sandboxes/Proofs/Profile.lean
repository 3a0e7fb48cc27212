import Sandboxes.Proofs.Text.Pieces
import Sandboxes.Sandbox

/-!
# Names that a profile owns

A profile owns every name that it gives, whatever its stem, and the container behind a handle is torn
down only if its name is owned and it is not managed elsewhere.
-/

namespace Sandboxes

namespace Profile

variable {p : Profile} {number : UInt32}

lemma toList_containerName : (p.containerName number).toList =
    p.stem.toList ++ '-' :: Text.hexPadded 8 number.toNat := by
  simp [containerName]

/-- A profile owns the names that it gives. -/
lemma owns_containerName : p.owns (p.containerName number) = true := by
  simp [owns, toList_containerName, Text.dropFront?_append]

end Profile

namespace Handle

open Container

variable {p : Profile} {e : Endpoint} {name : String}

lemma teardownOf_eq_some :
    teardownOf p e = some name ↔
      e.ownership ≠ .external ∧ e.name = some name ∧ p.owns name = true := by
  obtain ⟨given, host, ownership⟩ := e
  cases ownership <;> simp [teardownOf, Option.filter_eq_some_iff]

/-- A container that was launched under a name that the profile gave is torn down. -/
lemma teardownOf_containerName (number : UInt32) (host : String) :
    teardownOf p ⟨some (p.containerName number), host, .created⟩ =
      some (p.containerName number) :=
  teardownOf_eq_some.mpr ⟨by simp, rfl, Profile.owns_containerName⟩

end Handle

end Sandboxes
