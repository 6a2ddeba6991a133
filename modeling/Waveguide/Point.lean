import Waveguide.Scalar

/-!
Points of the plane and rectangles with sides along the axes.
-/

namespace Waveguide

structure Point (K : Type) where
  x : K
  y : K

namespace Point

variable {K : Type} [Scalar K]

def origin : Point K := ⟨0, 0⟩

def add (point offset : Point K) : Point K := ⟨point.x + offset.x, point.y + offset.y⟩

def sub (point other : Point K) : Point K := ⟨point.x - other.x, point.y - other.y⟩

def norm (offset : Point K) : K := Scalar.sqrt (offset.x * offset.x + offset.y * offset.y)

def lower (a b : Point K) : Point K :=
  ⟨if a.x ≤ b.x then a.x else b.x, if a.y ≤ b.y then a.y else b.y⟩

def upper (a b : Point K) : Point K :=
  ⟨if b.x ≤ a.x then a.x else b.x, if b.y ≤ a.y then a.y else b.y⟩

end Point

structure Bounds (K : Type) where
  low : Point K
  high : Point K

namespace Bounds

variable {K : Type} [Scalar K]

def zero : Bounds K := ⟨Point.origin, Point.origin⟩

def center (bounds : Bounds K) : Point K :=
  ⟨(bounds.low.x + bounds.high.x) * 0.5, (bounds.low.y + bounds.high.y) * 0.5⟩

def width (bounds : Bounds K) : K := bounds.high.x - bounds.low.x

def height (bounds : Bounds K) : K := bounds.high.y - bounds.low.y

/-- Points on the boundary are outside. -/
def contains (bounds : Bounds K) (point : Point K) : Bool :=
  decide (bounds.low.x < point.x) && decide (point.x < bounds.high.x) &&
    decide (bounds.low.y < point.y) && decide (point.y < bounds.high.y)

def cover (bounds : Bounds K) (low high : Point K) : Bounds K :=
  ⟨bounds.low.lower low, bounds.high.upper high⟩

def shift (bounds : Bounds K) (offset : Point K) : Bounds K :=
  ⟨bounds.low.add offset, bounds.high.add offset⟩

end Bounds

end Waveguide
