import Waveguide.Numeral
import Waveguide.Decimal.Shortest

/-!
Binary floating point as the numbers of a layout: a value is a whole mantissa times a power of two,
its remainder is exact, and its text is the shortest decimal that reads back, in positional form.
-/

namespace Waveguide.Binary64

structure Parts where
  negative : Bool
  mantissa : Nat
  exponent : Int

def leadingBit : Nat := 1 <<< 52

def parts (x : Float) : Parts :=
  let bits := x.toBits.toNat
  let exponent := bits / leadingBit % 2048
  let fraction := bits % leadingBit
  let negative := bits >>> 63 == 1
  if exponent = 0 then ⟨negative, fraction, -1074⟩
  else ⟨negative, leadingBit + fraction, (exponent : Int) - 1075⟩

def signed (negative : Bool) (x : Float) : Float := if negative then -x else x

/-- The exact remainder of two finite values: both are brought to the smaller power of two, where
they are whole numbers. -/
def remainderOfParts (x y : Parts) : Float :=
  let rest :=
    if y.exponent ≤ x.exponent then
      (x.mantissa <<< (x.exponent - y.exponent).toNat) % y.mantissa
    else x.mantissa % (y.mantissa <<< (y.exponent - x.exponent).toNat)
  let exponent := if y.exponent ≤ x.exponent then y.exponent else x.exponent
  signed x.negative ((Float.ofNat rest).scaleB exponent)

def remainder (x y : Float) : Float :=
  if x.isNaN || y.isNaN || x.isInf || y == 0 then 0.0 / 0.0
  else if y.isInf then x
  else remainderOfParts (parts x) (parts y)

/-- The nearest value to a decimal. Powers of ten far out of range are settled without computing
them. -/
def ofDecimal (value : Decimal) : Float :=
  let place := value.exponent + Decimal.size value.digits
  if value.digits = 0 || place < -400 then signed value.negative 0.0
  else if 400 < place then signed value.negative (1.0 / 0.0)
  else
    signed value.negative
      (Float.ofScientific value.digits (value.exponent < 0) value.exponent.natAbs)

def toDecimal (x : Float) : Decimal :=
  let value := parts x
  let narrow := value.mantissa == leadingBit && -1074 < value.exponent
  Decimal.Shortest.ofBinary value.negative value.mantissa value.exponent narrow

def text (x : Float) : String :=
  if x.isNaN then "NaN"
  else if x.isInf then if x < 0 then "-inf" else "inf"
  else (toDecimal x).positional

def ofFigure? : Figure → Option Float
  | .finite value =>
      let x := ofDecimal value
      if x.isInf then none else some x
  | .infinite negative => some (signed negative (1.0 / 0.0))
  | .undefined => some (0.0 / 0.0)

instance : Numeral Float where
  zero := 0.0
  one := 1.0
  decideLt a b := inferInstanceAs (Decidable (a < b))
  decideLe a b := inferInstanceAs (Decidable (a ≤ b))
  remainder := remainder
  sqrt := Float.sqrt
  wholeUnits x := x.floor.toUInt64.toNat
  ofFigure? := ofFigure?
  toDecimal := toDecimal
  text := text

end Waveguide.Binary64
