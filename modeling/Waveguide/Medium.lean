import Waveguide.Scalar

/-!
The media that fill the layers of a guide.
-/

namespace Waveguide

inductive Medium (K : Type) where
  | metal (epsilon conductivity : K)
  | dielectric (epsilon : K)
  deriving DecidableEq

namespace Medium

variable {K : Type}

def isMetal : Medium K → Bool
  | metal .. => true
  | dielectric _ => false

def epsilon : Medium K → K
  | metal epsilon _ => epsilon
  | dielectric epsilon => epsilon

def template : Medium K → String × List K
  | metal epsilon conductivity => ("block_metal", [epsilon, conductivity])
  | dielectric epsilon => ("block_dielectric", [epsilon])

variable [Scalar K]

def air : Medium K := dielectric 1

def isAir : Medium K → Bool
  | dielectric epsilon => Scalar.same epsilon 1
  | metal .. => false

end Medium

end Waveguide
