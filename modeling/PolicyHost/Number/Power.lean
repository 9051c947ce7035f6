/-!
# Powers of integers

The powers that `x ^ n` stands for, for natural numbers and for integers. They
are those of the language itself. Other instances that happen to be known where
a power is written are left aside, so that a power means the same everywhere.
-/

namespace PolicyHost

/-- Powers of integers. -/
@[default_instance high]
instance intPower : Pow Int Nat := @instPowNat Int Int.instNatPow

/-- Powers of natural numbers. They are tried first where the kind of number is
left open. -/
@[default_instance high]
instance natPower : Pow Nat Nat := instPowNat

end PolicyHost
