import Waveguide.Element

/-!
A line as a row of flat and grooved segments. A period is a flat part followed by a groove; the skip
of a line says how much of the first period lies before its start, so a line may open in the middle
of a flat or of a groove.
-/

namespace Waveguide

inductive SegmentKind where
  | flat
  | groove
  deriving DecidableEq

def SegmentKind.name : SegmentKind → String
  | flat => "Flat"
  | groove => "Groove"

structure Segment (K : Type) where
  kind : SegmentKind
  start : K
  finish : K

variable {K : Type} [Scalar K]

def Segment.length (segment : Segment K) : K := segment.finish - segment.start

structure Stretch (K : Type) where
  segment : Segment K
  length : K

def Stretch.isDrawn (stretch : Stretch K) : Bool := decide (Scalar.tolerance < stretch.length)

structure Walk (K : Type) where
  x : K
  rest : K
  passed : Array (Stretch K)

namespace Walk

def advance (walk : Walk K) (kind : SegmentKind) (length : K) : Walk K :=
  let length := Scalar.minimum length walk.rest
  let finish := walk.x + length
  { x := finish
    rest := walk.rest - length
    passed := walk.passed.push ⟨⟨kind, walk.x, finish⟩, length⟩ }

def periods (flat groove : K) : Nat → Walk K → Walk K
  | 0, walk => walk
  | count + 1, walk =>
      periods flat groove count ((walk.advance .flat flat).advance .groove groove)

def afterFirst (grooves : Grooves K) (walk : Walk K) : Walk K :=
  let flat := grooves.period - grooves.width
  let whole := Scalar.wholeUnits (walk.rest / grooves.period)
  let walk := periods flat grooves.width whole walk
  if flat < walk.rest then
    let walk := walk.advance .flat flat
    walk.advance .groove walk.rest
  else walk.advance .flat walk.rest

def fromGroove (grooves : Grooves K) (length : K) (walk : Walk K) : Walk K :=
  if walk.rest < length then walk.advance .groove walk.rest
  else (walk.advance .groove length).afterFirst grooves

def fromStart (grooves : Grooves K) (length : K) (walk : Walk K) : Walk K :=
  let flat := length - grooves.width
  if 0 < flat then
    if walk.rest < flat then walk.advance .flat walk.rest
    else (walk.advance .flat flat).fromGroove grooves (length - flat)
  else walk.fromGroove grooves length

end Walk

namespace Line

def stretches (line : Line K) : List (Stretch K) :=
  let grooves := line.property.grooves
  let start : Walk K := ⟨line.minX, line.length, #[]⟩
  (start.fromStart grooves (grooves.period * (1 - line.skip))).passed.toList

def segments (line : Line K) : List (Segment K) :=
  (line.stretches.filter Stretch.isDrawn).map Stretch.segment

end Line

end Waveguide
