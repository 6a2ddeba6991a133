/-!
The numbers a layout is computed with. Everything geometric is written once over `Scalar`, so the
program can run on binary floating point while its statements are read over exact numbers.
-/

namespace Waveguide

class Scalar (K : Type) extends Add K, Sub K, Mul K, Div K, Neg K, Zero K, One K, LT K, LE K,
    OfScientific K where
  decideLt : (a b : K) → Decidable (a < b)
  decideLe : (a b : K) → Decidable (a ≤ b)
  /-- What the first number leaves after whole multiples of the second; it has the first one's
  sign. -/
  remainder : K → K → K
  sqrt : K → K
  /-- The number of whole units below a number, and zero for a negative one. -/
  wholeUnits : K → Nat

variable {K : Type} [Scalar K]

instance decidableLt (a b : K) : Decidable (a < b) := Scalar.decideLt a b

instance decidableLe (a b : K) : Decidable (a ≤ b) := Scalar.decideLe a b

namespace Scalar

def tolerance : K := 1e-6

def ofCount (count : Nat) : K := OfScientific.ofScientific count false 0

def abs (x : K) : K := if x < 0 then -x else x

/-- The smaller number. A value that does not equal itself gives way to the other one. -/
def minimum (a b : K) : K := if b < a then b else if a ≤ a then a else b

def maximum (a b : K) : K := if a < b then b else if a ≤ a then a else b

/-- The remainder moved into the range from zero to the size of the divisor. -/
def cyclicRemainder (x modulus : K) : K :=
  let rest := remainder x modulus
  if rest < 0 then rest + abs modulus else rest

def same (a b : K) : Bool := decide (a ≤ b) && decide (b ≤ a)

end Scalar

end Waveguide
