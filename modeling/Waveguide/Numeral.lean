import Waveguide.Scalar
import Waveguide.Decimal

/-!
Numbers that can be read from a text and written to one.
-/

namespace Waveguide

class Numeral (K : Type) extends Scalar K where
  /-- The number a figure stands for; none if it is too large to be held. -/
  ofFigure? : Figure → Option K
  toDecimal : K → Decimal
  text : K → String

end Waveguide
