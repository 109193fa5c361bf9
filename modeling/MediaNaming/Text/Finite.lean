import MediaNaming.Text.Numeral

/-!
Binary floating-point numbers of 64 bits. The finite ones have 53 significant binary places, and a
number from a certain threshold on rounds to infinity.
-/

namespace MediaNaming.Text

/-- The least number that rounds to infinity, half a unit above the largest finite one. -/
def infinityThreshold : Nat := Nat.pow 2 1024 - Nat.pow 2 970

/-- The nearest number with no more than 53 significant binary places; of two that are as near, the
one whose last place is even. -/
def nearestBinary (n : Nat) : Nat :=
  let unit := Nat.pow 2 (n.log2 + 1 - 53)
  let q := n / unit
  let excess := 2 * (n % unit)
  if unit < excess ∨ (excess = unit ∧ q % 2 = 1) then (q + 1) * unit else q * unit

/-- Whether `digits · 10 ^ exponent` is below the threshold. The test is exact and computes no power
larger than the numeral calls for. -/
def isFinite (digits : Nat) (exponent : Int) : Bool :=
  let places := (ofNat digits).length + exponent
  if digits = 0 ∨ places ≤ 308 then true
  else if 310 ≤ places then false
  else if 0 ≤ exponent then digits * Nat.pow 10 exponent.toNat < infinityThreshold
  else digits < infinityThreshold * Nat.pow 10 (-exponent).toNat

/-- Whether `n · 10 ^ exponent` comes out finite when both factors are rounded before their product
is. A negative exponent divides, which leads to no infinity. -/
def isFiniteProduct (n : Nat) (exponent : Int) : Bool :=
  if n = 0 ∨ exponent < 0 then true
  else if 309 ≤ exponent then false
  else nearestBinary n * nearestBinary (Nat.pow 10 exponent.toNat) < infinityThreshold

end MediaNaming.Text
