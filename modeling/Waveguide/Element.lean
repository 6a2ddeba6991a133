import Waveguide.Description
import Waveguide.Point

/-!
Placed elements: horizontal grooved lines, and the vertical connectors between them. Elements are
addressed by their place in the list they belong to.
-/

namespace Waveguide

inductive ElementKind where
  | line
  | connector
  deriving DecidableEq

def ElementKind.name : ElementKind → String
  | line => "Line"
  | connector => "Connector"

structure Attachment (K : Type) where
  target : Nat
  kind : ElementKind
  tip : Tip
  width : K

structure Endpoint (K : Type) where
  position : Point K
  attachment : Option (Attachment K)
  /-- Something is attached to the right of this point. -/
  right : Bool
  /-- Something is attached to the left of this point. -/
  left : Bool

/-- The vertical space of a line on either side of its axis: what it must have (`up`, `down`), and
what it would like to have with its padding (`softUp`, `softDown`). -/
structure Clearance (K : Type) where
  up : K
  down : K
  softUp : K
  softDown : K

structure Line (K : Type) where
  id : Option String
  comment : Option String
  start : Endpoint K
  finish : Endpoint K
  property : LineProperty K
  /-- The fraction of a groove period that lies before the start. -/
  skip : K
  clearance : Clearance K
  elevation : Option K
  /-- The line this one was cut from. -/
  parent : Option Nat

structure Connector (K : Type) where
  id : Option String
  comment : Option String
  start : Endpoint K
  finish : Endpoint K
  property : ConnectorProperty K
  elevation : Option K

inductive Element (K : Type) where
  | line (line : Line K)
  | connector (connector : Connector K)

variable {K : Type}

namespace Endpoint

def plain (position : Point K) : Endpoint K := ⟨position, none, false, false⟩

def attached (position : Point K) (attachment : Option (Attachment K)) : Endpoint K :=
  ⟨position, attachment, false, false⟩

def markRight (endpoint : Endpoint K) : Endpoint K := { endpoint with right := true }

def markLeft (endpoint : Endpoint K) : Endpoint K := { endpoint with left := true }

def x (endpoint : Endpoint K) : K := endpoint.position.x

def y (endpoint : Endpoint K) : K := endpoint.position.y

def shift [Scalar K] (endpoint : Endpoint K) (offset : Point K) : Endpoint K :=
  { endpoint with position := endpoint.position.add offset }

end Endpoint

namespace Element

def asLine? : Element K → Option (Line K)
  | line self => some self
  | connector _ => none

def asConnector? : Element K → Option (Connector K)
  | connector self => some self
  | line _ => none

def id : Element K → Option String
  | line self => self.id
  | connector self => self.id

def comment : Element K → Option String
  | line self => self.comment
  | connector self => self.comment

def kind : Element K → ElementKind
  | line _ => .line
  | connector _ => .connector

def width : Element K → K
  | line self => self.property.width
  | connector self => self.property.width

def tip : Element K → Tip → Endpoint K
  | line self, .start => self.start
  | line self, .finish => self.finish
  | connector self, .start => self.start
  | connector self, .finish => self.finish

def modifyTip (change : Endpoint K → Endpoint K) : Element K → Tip → Element K
  | line self, .start => line { self with start := change self.start }
  | line self, .finish => line { self with finish := change self.finish }
  | connector self, .start => connector { self with start := change self.start }
  | connector self, .finish => connector { self with finish := change self.finish }

def shift [Scalar K] (element : Element K) (offset : Point K) : Element K :=
  (element.modifyTip (·.shift offset) .start).modifyTip (·.shift offset) .finish

end Element

variable [Scalar K]

def Clearance.ofProperty (property : LineProperty K) : Clearance K :=
  let hard := property.width / 2.0 + property.grooves.depth
  ⟨hard, hard, hard + property.padding, hard + property.padding⟩

namespace Line

def y (line : Line K) : K := line.start.y

def length (line : Line K) : K := (line.finish.position.sub line.start.position).norm

def minX (line : Line K) : K :=
  if line.start.x < line.finish.x then line.start.x else line.finish.x

def maxX (line : Line K) : K :=
  if line.start.x < line.finish.x then line.finish.x else line.start.x

end Line

/-- The fraction of a period in a number of periods. A fraction that is zero or one within the
tolerance counts as none. -/
def normalizeSkip (skip : K) : K :=
  let fraction := Scalar.cyclicRemainder skip 1
  if Scalar.abs fraction < Scalar.tolerance ∨ Scalar.abs (fraction - 1) < Scalar.tolerance then 0
  else fraction

end Waveguide
