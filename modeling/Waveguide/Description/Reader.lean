import Waveguide.Description
import Waveguide.Numeral
import Waveguide.Document.Notations
import Waveguide.Json.Parser
import Waveguide.Yaml.Parser

/-!
Reading descriptions from documents, section by section. A record may leave out fields that have a
default; null stands only for an optional value.
-/

namespace Waveguide

open Document

variable {K ν : Type} [Numeral K] [Document ν]

def number? (node : ν) : Option K := (figure? node).bind Numeral.ofFigure?

def denotedNumber? (node : ν) : Option K := (Document.denoted? node).bind Numeral.ofFigure?

def count32? (node : ν) : Option Nat :=
  (Document.count? node).bind fun size => if size < UInt32.size then some size else none

def wrapped {α : Type} (name : String) (read : ν → Option α) (node : ν) : Option α := do
  let record ← record? [name] node
  record.required name read

namespace Medium

def ofFields? (kind : String) (record : List String → Option (Record ν)) : Option (Medium K) :=
  if kind == "metal" then do
    let record ← record ["epsilon", "conductivity"]
    some (metal (← record.withDefault "epsilon" 1 denotedNumber?)
      (← record.required "conductivity" denotedNumber?))
  else if kind == "dielectric" then do
    let record ← record ["epsilon"]
    some (dielectric (← record.withDefault "epsilon" 1 denotedNumber?))
  else none

/-- A medium is a record that names its kind in the field `medium`, or a list that starts with
it. -/
def ofDocument? (node : ν) : Option (Medium K) :=
  match members? node with
  | some members => do
      let tag ← namedRecord? ["medium"] members
      let kind ← tag.required "medium" text?
      ofFields? kind fun names => namedRecord? names members
  | none => do
      match ← items? node with
      | [] => none
      | kind :: items => ofFields? (← text? kind) fun names => positionalRecord? names items

end Medium

def Tip.ofName? (name : String) : Option Tip :=
  if name == "start" then some start else if name == "end" then some finish else none

def Profile.ofName? (name : String) : Option Profile :=
  if name == "pulse" then some pulse else if name == "continuous" then some continuous else none

def Stop.ofName? (name : String) : Option Stop :=
  if name == "decay" then some decay else if name == "fixed" then some fixed else none

def Direction.ofDocument? (node : ν) : Option (Direction K) := do
  let record ← record? ["x", "y"] node
  some ⟨← record.required "x" number?, ← record.required "y" number?⟩

def PointSpec.ofDocument? (node : ν) : Option (PointSpec K) := do
  let record ←
    record? ["x", "y", "ref", "attached_to", "point", "skip", "periods", "direction"] node
  some {
    x := ← record.optional "x" number?
    y := ← record.optional "y" number?
    reference := ← record.optional "ref" text?
    attachedTo := ← record.optional "attached_to" text?
    tip := ← record.withDefault "point" .start fun node => (text? node).bind Tip.ofName?
    skip := ← record.optional "skip" number?
    periods := ← record.optional "periods" number?
    direction := ← record.optional "direction" Direction.ofDocument?
  }

def Grooves.ofDocument? (node : ν) : Option (Grooves K) := do
  let record ← record? ["period", "width", "depth"] node
  some {
    period := ← record.required "period" number?
    width := ← record.required "width" number?
    depth := ← record.required "depth" number?
  }

def LineMaterials.ofDocument? (node : ν) : Option (LineMaterials K) := do
  let record ← record? ["up", "in", "down"] node
  some {
    up := ← record.required "up" Medium.ofDocument?
    inner := ← record.required "in" Medium.ofDocument?
    down := ← record.required "down" Medium.ofDocument?
  }

def LineProperty.ofDocument? (node : ν) : Option (LineProperty K) := do
  let record ← record? ["width", "padding", "grooves", "materials"] node
  some {
    width := ← record.required "width" number?
    padding := ← record.withDefault "padding" 0 number?
    grooves := ← record.required "grooves" Grooves.ofDocument?
    materials := ← record.required "materials" LineMaterials.ofDocument?
  }

def LineSpec.ofDocument? (node : ν) : Option (LineSpec K) := do
  let record ← record? ["id", "comment", "start", "end", "property"] node
  some {
    id := ← record.optional "id" text?
    comment := ← record.optional "comment" text?
    start := ← record.required "start" PointSpec.ofDocument?
    finish := ← record.required "end" PointSpec.ofDocument?
    property := ← record.required "property" LineProperty.ofDocument?
  }

def ConnectorProperty.ofDocument? (node : ν) : Option (ConnectorProperty K) := do
  let record ← record? ["width", "materials"] node
  some {
    width := ← record.required "width" number?
    inner := ← record.required "materials" (wrapped "in" Medium.ofDocument?)
  }

def ConnectorSpec.ofDocument? (node : ν) : Option (ConnectorSpec K) := do
  let record ← record? ["id", "comment", "start", "end", "property"] node
  some {
    id := ← record.optional "id" text?
    comment := ← record.optional "comment" text?
    start := ← record.required "start" PointSpec.ofDocument?
    finish := ← record.required "end" PointSpec.ofDocument?
    property := ← record.required "property" ConnectorProperty.ofDocument?
  }

def ElementSpec.ofDocument? (node : ν) : Option (ElementSpec K) := do
  match ← members? node with
  | [(kind, node)] =>
      if kind == "line" then (LineSpec.ofDocument? node).map line
      else if kind == "connector" then (ConnectorSpec.ofDocument? node).map connector
      else none
  | _ => none

def PositionSpec.ofDocument? (node : ν) : Option (PositionSpec K) := do
  let record ← record? ["x", "y", "width", "ref", "point"] node
  some {
    x := ← record.withDefault "x" 0 number?
    y := ← record.withDefault "y" 0 number?
    width := ← record.withDefault "width" 0 number?
    reference := ← record.optional "ref" text?
    tip := ← record.withDefault "point" .start fun node => (choice? node).bind Tip.ofName?
  }

def SourceProperty.ofDocument? (node : ν) : Option (SourceProperty K) := do
  let record ← record? ["component", "type", "center", "width"] node
  some {
    component := ← record.required "component" text?
    profile := ← record.required "type" fun node => (choice? node).bind Profile.ofName?
    center := ← record.required "center" number?
    width := ← record.required "width" number?
  }

def SourceSpec.ofDocument? (node : ν) : Option (SourceSpec K) := do
  let record ← record? ["comment", "position", "property"] node
  some {
    comment := ← record.optional "comment" text?
    position := ← record.required "position" PositionSpec.ofDocument?
    property := ← record.required "property" SourceProperty.ofDocument?
  }

def FluxProperty.ofDocument? (node : ν) : Option (FluxProperty K) := do
  let record ← record? ["center", "width", "resolution"] node
  some {
    center := ← record.required "center" number?
    width := ← record.required "width" number?
    resolution := ← record.required "resolution" count32?
  }

def FluxSpec.ofDocument? (node : ν) : Option (FluxSpec K) := do
  let record ← record? ["comment", "position", "property"] node
  some {
    comment := ← record.optional "comment" text?
    position := ← record.required "position" PositionSpec.ofDocument?
    property := ← record.required "property" FluxProperty.ofDocument?
  }

def TransientSpec.ofDocument? (node : ν) : Option (TransientSpec K) := do
  let record ← record? ["comment", "component", "field", "resolution", "position"] node
  some {
    comment := ← record.optional "comment" text?
    component := ← record.required "component" text?
    field := ← record.withDefault "field" defaultField text?
    interval := ← record.optional "resolution" number?
    position := ← record.optional "position" PositionSpec.ofDocument?
  }

def SnapshotSpec.ofDocument? (node : ν) : Option (SnapshotSpec K) := do
  let record ← record? ["component", "field", "resolution"] node
  some {
    component := ← record.required "component" text?
    field := ← record.withDefault "field" defaultField text?
    interval := ← record.optional "resolution" number?
  }

def TimeSpec.ofDocument? (node : ν) : Option (TimeSpec K) := do
  let record ← record? ["type", "duration", "structure_only"] node
  some {
    stop := ← record.required "type" fun node => (choice? node).bind Stop.ofName?
    duration := ← record.withDefault "duration" 0 number?
    structureOnly := ← record.withDefault "structure_only" false flag?
  }

def Controls.ofDocument? (node : ν) : Option (Controls K) := do
  let record ← record? ["resolution", "time", "complex", "snapshot"] node
  some {
    resolution := ← record.required "resolution" number?
    time := ← record.required "time" TimeSpec.ofDocument?
    complex := ← record.withDefault "complex" false flag?
    snapshot := ← record.optional "snapshot" SnapshotSpec.ofDocument?
  }

/-- The file name may be missing from a record, but not from a list of values. -/
def OutputSpec.ofDocument? (node : ν) : Option OutputSpec := do
  let record ← record? ["ctl_file"] node
  if record.positional && record.fields.isEmpty then none
  some ⟨← record.optional "ctl_file" text?⟩

def GeometrySpec.ofDocument? (node : ν) : Option (GeometrySpec K) := do
  let record ← record? ["elements", "overshot", "Z_direction"] node
  some {
    elements := ← record.withDefault "elements" [] (list? ElementSpec.ofDocument?)
    overshot := ← record.withDefault "overshot" 0 number?
    thickness := ← record.optional "Z_direction" (wrapped "size" number?)
  }

def Collectors.ofDocument? (node : ν) : Option (Collectors K) := do
  let record ← record? ["spectral", "temporal"] node
  some {
    spectral := ← record.withDefault "spectral" [] (list? (wrapped "flux" FluxSpec.ofDocument?))
    temporal :=
      ← record.withDefault "temporal" [] (list? (wrapped "transient" TransientSpec.ofDocument?))
  }

namespace Description

def ofDocument? (node : ν) : Option (Description K) := do
  let record ←
    record? ["version", "comment", "Output", "Geometry", "Sources", "Collectors", "Controls"] node
  some {
    version := ← record.required "version" text?
    comment := ← record.optional "comment" text?
    output := ← record.optional "Output" OutputSpec.ofDocument?
    geometry := ← record.required "Geometry" GeometrySpec.ofDocument?
    sources :=
      ← record.withDefault "Sources" [] (list? (wrapped "source" SourceSpec.ofDocument?))
    collectors := ← record.withDefault "Collectors" ⟨[], []⟩ Collectors.ofDocument?
    controls := ← record.required "Controls" Controls.ofDocument?
  }

def ofJson? (text : String) : Option (Description K) := (Json.parse? text).bind ofDocument?

def ofYaml? (text : String) : Option (Description K) := (Yaml.parse? text).bind ofDocument?

end Description

end Waveguide
