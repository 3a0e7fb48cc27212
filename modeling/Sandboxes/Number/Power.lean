/-!
# Powers

Powers of numbers are the ones that are computed, also where further powers are known.
-/

namespace Sandboxes

@[default_instance 20000]
instance (priority := 20000) powOfNatPow {α : Type} [NatPow α] : Pow α Nat := instPowNat

end Sandboxes
