import Waveguide.Medium

/-!
What a description says, before anything is resolved: points may still refer to other elements.
-/

namespace Waveguide

inductive Tip where
  | start
  | finish
  deriving DecidableEq

structure Direction (K : Type) where
  x : K
  y : K
  deriving DecidableEq

/-- A point of a line or connector. Its coordinates are offsets if it refers to an element. -/
structure PointSpec (K : Type) where
  x : Option K
  y : Option K
  reference : Option String
  attachedTo : Option String
  tip : Tip
  skip : Option K
  /-- For the end of a line: its distance from the start in groove periods. -/
  periods : Option K
  direction : Option (Direction K)
  deriving DecidableEq

structure Grooves (K : Type) where
  period : K
  width : K
  depth : K
  deriving DecidableEq

structure LineMaterials (K : Type) where
  up : Medium K
  inner : Medium K
  down : Medium K
  deriving DecidableEq

structure LineProperty (K : Type) where
  width : K
  padding : K
  grooves : Grooves K
  materials : LineMaterials K
  deriving DecidableEq

structure LineSpec (K : Type) where
  id : Option String
  comment : Option String
  start : PointSpec K
  finish : PointSpec K
  property : LineProperty K
  deriving DecidableEq

structure ConnectorProperty (K : Type) where
  width : K
  inner : Medium K
  deriving DecidableEq

structure ConnectorSpec (K : Type) where
  id : Option String
  comment : Option String
  start : PointSpec K
  finish : PointSpec K
  property : ConnectorProperty K
  deriving DecidableEq

inductive ElementSpec (K : Type) where
  | line (spec : LineSpec K)
  | connector (spec : ConnectorSpec K)
  deriving DecidableEq

/-- Where a source or an observer stands. With a reference the coordinates are offsets and the
width counts in widths of the element referred to. -/
structure PositionSpec (K : Type) where
  x : K
  y : K
  width : K
  reference : Option String
  tip : Tip
  deriving DecidableEq

inductive Profile where
  | pulse
  | continuous
  deriving DecidableEq

structure SourceProperty (K : Type) where
  component : String
  profile : Profile
  center : K
  width : K
  deriving DecidableEq

structure SourceSpec (K : Type) where
  comment : Option String
  position : PositionSpec K
  property : SourceProperty K
  deriving DecidableEq

structure FluxProperty (K : Type) where
  center : K
  width : K
  resolution : Nat
  deriving DecidableEq

structure FluxSpec (K : Type) where
  comment : Option String
  position : PositionSpec K
  property : FluxProperty K
  deriving DecidableEq

structure TransientSpec (K : Type) where
  comment : Option String
  component : String
  field : String
  interval : Option K
  position : Option (PositionSpec K)
  deriving DecidableEq

structure SnapshotSpec (K : Type) where
  component : String
  field : String
  interval : Option K
  deriving DecidableEq

inductive Stop where
  | decay
  | fixed
  deriving DecidableEq

structure TimeSpec (K : Type) where
  stop : Stop
  duration : K
  structureOnly : Bool
  deriving DecidableEq

structure Controls (K : Type) where
  resolution : K
  time : TimeSpec K
  complex : Bool
  snapshot : Option (SnapshotSpec K)
  deriving DecidableEq

structure OutputSpec where
  controlFile : Option String
  deriving DecidableEq

structure GeometrySpec (K : Type) where
  elements : List (ElementSpec K)
  overshot : K
  /-- The thickness of the slab; none for a planar structure. -/
  thickness : Option K
  deriving DecidableEq

structure Collectors (K : Type) where
  spectral : List (FluxSpec K)
  temporal : List (TransientSpec K)
  deriving DecidableEq

structure Description (K : Type) where
  version : String
  comment : Option String
  output : Option OutputSpec
  geometry : GeometrySpec K
  sources : List (SourceSpec K)
  collectors : Collectors K
  controls : Controls K
  deriving DecidableEq

def defaultField : String := "e"

def Tip.name : Tip → String
  | start => "start"
  | finish => "end"

def Profile.name : Profile → String
  | pulse => "pulse"
  | continuous => "continuous"

def Stop.name : Stop → String
  | decay => "decay"
  | fixed => "fixed"

end Waveguide
