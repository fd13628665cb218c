/-! # Powers

Powers of numbers are those of the core library, whatever other powers are in scope.
-/

namespace Intake

@[default_instance 20000]
instance (priority := 20000) corePow {α : Type} [NatPow α] : Pow α Nat := instPowNat

end Intake
