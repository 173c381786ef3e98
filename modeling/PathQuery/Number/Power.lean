/-!
Powers of natural numbers and of integers are those of the core library, also where a library with
powers of its own is at hand.
-/
namespace PathQuery

@[default_instance high + 2]
instance (priority := high) natPow : Pow Nat Nat := instPowNat

@[default_instance high + 1]
instance (priority := high) intPow : Pow Int Nat := instPowNat

end PathQuery
