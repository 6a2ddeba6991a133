import Waveguide.Decimal

/-!
The shortest decimal that reads back as a binary number. A binary number stands for every real
closer to it than to its neighbours; among the decimals in that range the one with the fewest
digits is chosen, of two such the closer one, and at equal distance the larger.
-/

namespace Waveguide.Decimal.Shortest

structure Range where
  value : Nat
  unit : Nat
  below : Nat
  above : Nat
  closed : Bool

/-- What rounds to `mantissa · 2 ^ exponent`. The range is closed when the mantissa is even, since
a tie goes there; below a power of two the neighbour is only half as far (`narrow`). -/
def Range.ofBinary (mantissa : Nat) (exponent : Int) (narrow : Bool) : Range :=
  let below := if narrow then 1 else 2
  match exponent - 2 with
  | .ofNat shift =>
      let scale := 1 <<< shift
      ⟨4 * mantissa * scale, 1, below * scale, 2 * scale, mantissa % 2 == 0⟩
  | .negSucc shift => ⟨4 * mantissa, 1 <<< (shift + 1), below, 2, mantissa % 2 == 0⟩

def Range.inSteps (range : Range) : Int → Range
  | .ofNat place => { range with unit := range.unit * Nat.pow 10 place }
  | .negSucc place =>
      let scale := Nat.pow 10 (place + 1)
      { range with
        value := range.value * scale
        below := range.below * scale
        above := range.above * scale }

def Range.holds (range : Range) (steps : Nat) : Bool :=
  let point := steps * range.unit
  if range.closed then range.value ≤ point + range.below && point ≤ range.value + range.above
  else range.value < point + range.below && point < range.value + range.above

def Range.step? (range : Range) : Option Nat :=
  let low := range.value / range.unit
  let high := low + 1
  match range.holds low, range.holds high with
  | true, true =>
      some (if range.value - low * range.unit < high * range.unit - range.value then low else high)
  | true, false => some low
  | false, true => some high
  | false, false => none

def Range.firstPlace (range : Range) : Int :=
  if range.unit ≤ range.value then (size (range.value / range.unit) : Int) - 1
  else -(size (range.unit / range.value) : Int)

def Range.search (range : Range) : Nat → Int → Nat × Int
  | 0, place =>
      let range := range.inSteps place
      (range.value / range.unit, place)
  | attempts + 1, place =>
      match (range.inSteps place).step? with
      | some digits => (digits, place)
      | none => range.search attempts (place - 1)

/-- The shortest decimal of `± mantissa · 2 ^ exponent`. Seventeen digits always suffice. -/
def ofBinary (negative : Bool) (mantissa : Nat) (exponent : Int) (narrow : Bool) : Decimal :=
  if mantissa = 0 then ⟨negative, 0, 0⟩
  else
    let range := Range.ofBinary mantissa exponent narrow
    let (digits, place) := range.search 17 range.firstPlace
    let (digits, place) := dropZeros 20 digits place
    ⟨negative, digits, place⟩

end Waveguide.Decimal.Shortest
