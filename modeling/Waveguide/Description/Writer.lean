import Waveguide.Description
import Waveguide.Json

/-!
Writing descriptions as JSON, with every field and every default. How a number is written is left
to the caller.
-/

namespace Waveguide

variable {K : Type}

abbrev NumberForm (K : Type) := K → Json

def optionalJson {α : Type} (write : α → Json) : Option α → Json
  | none => .null
  | some value => write value

def listJson {α : Type} (write : α → Json) (values : List α) : Json := .array (values.map write)

def wrappedJson {α : Type} (name : String) (write : α → Json) (value : α) : Json :=
  .object [(name, write value)]

def Medium.toJson (form : NumberForm K) : Medium K → Json
  | metal epsilon conductivity =>
      .object [("medium", .string "metal"), ("epsilon", form epsilon),
        ("conductivity", form conductivity)]
  | dielectric epsilon => .object [("medium", .string "dielectric"), ("epsilon", form epsilon)]

def Direction.toJson (form : NumberForm K) (direction : Direction K) : Json :=
  .object [("x", form direction.x), ("y", form direction.y)]

def PointSpec.toJson (form : NumberForm K) (point : PointSpec K) : Json :=
  .object [
    ("x", optionalJson form point.x),
    ("y", optionalJson form point.y),
    ("ref", optionalJson .string point.reference),
    ("attached_to", optionalJson .string point.attachedTo),
    ("point", .string point.tip.name),
    ("skip", optionalJson form point.skip),
    ("periods", optionalJson form point.periods),
    ("direction", optionalJson (Direction.toJson form) point.direction)]

def Grooves.toJson (form : NumberForm K) (grooves : Grooves K) : Json :=
  .object [
    ("period", form grooves.period),
    ("width", form grooves.width),
    ("depth", form grooves.depth)]

def LineMaterials.toJson (form : NumberForm K) (materials : LineMaterials K) : Json :=
  .object [
    ("up", materials.up.toJson form),
    ("in", materials.inner.toJson form),
    ("down", materials.down.toJson form)]

def LineProperty.toJson (form : NumberForm K) (property : LineProperty K) : Json :=
  .object [
    ("width", form property.width),
    ("padding", form property.padding),
    ("grooves", property.grooves.toJson form),
    ("materials", property.materials.toJson form)]

def ConnectorProperty.toJson (form : NumberForm K) (property : ConnectorProperty K) : Json :=
  .object [
    ("width", form property.width),
    ("materials", wrappedJson "in" (Medium.toJson form) property.inner)]

def elementJson (id comment : Option String) (start finish property : Json) : Json :=
  .object [
    ("id", optionalJson .string id),
    ("comment", optionalJson .string comment),
    ("start", start),
    ("end", finish),
    ("property", property)]

def LineSpec.toJson (form : NumberForm K) (spec : LineSpec K) : Json :=
  elementJson spec.id spec.comment (spec.start.toJson form) (spec.finish.toJson form)
    (spec.property.toJson form)

def ConnectorSpec.toJson (form : NumberForm K) (spec : ConnectorSpec K) : Json :=
  elementJson spec.id spec.comment (spec.start.toJson form) (spec.finish.toJson form)
    (spec.property.toJson form)

def ElementSpec.toJson (form : NumberForm K) : ElementSpec K → Json
  | line spec => wrappedJson "line" (LineSpec.toJson form) spec
  | connector spec => wrappedJson "connector" (ConnectorSpec.toJson form) spec

def PositionSpec.toJson (form : NumberForm K) (position : PositionSpec K) : Json :=
  .object [
    ("x", form position.x),
    ("y", form position.y),
    ("width", form position.width),
    ("ref", optionalJson .string position.reference),
    ("point", .string position.tip.name)]

def SourceProperty.toJson (form : NumberForm K) (property : SourceProperty K) : Json :=
  .object [
    ("component", .string property.component),
    ("type", .string property.profile.name),
    ("center", form property.center),
    ("width", form property.width)]

def SourceSpec.toJson (form : NumberForm K) (spec : SourceSpec K) : Json :=
  .object [
    ("comment", optionalJson .string spec.comment),
    ("position", spec.position.toJson form),
    ("property", spec.property.toJson form)]

def countJson (count : Nat) : Json := .number (.integer false count)

def FluxProperty.toJson (form : NumberForm K) (property : FluxProperty K) : Json :=
  .object [
    ("center", form property.center),
    ("width", form property.width),
    ("resolution", countJson property.resolution)]

def FluxSpec.toJson (form : NumberForm K) (spec : FluxSpec K) : Json :=
  .object [
    ("comment", optionalJson .string spec.comment),
    ("position", spec.position.toJson form),
    ("property", spec.property.toJson form)]

def TransientSpec.toJson (form : NumberForm K) (spec : TransientSpec K) : Json :=
  .object [
    ("comment", optionalJson .string spec.comment),
    ("component", .string spec.component),
    ("field", .string spec.field),
    ("resolution", optionalJson form spec.interval),
    ("position", optionalJson (PositionSpec.toJson form) spec.position)]

def SnapshotSpec.toJson (form : NumberForm K) (spec : SnapshotSpec K) : Json :=
  .object [
    ("component", .string spec.component),
    ("field", .string spec.field),
    ("resolution", optionalJson form spec.interval)]

def TimeSpec.toJson (form : NumberForm K) (time : TimeSpec K) : Json :=
  .object [
    ("type", .string time.stop.name),
    ("duration", form time.duration),
    ("structure_only", .bool time.structureOnly)]

def Controls.toJson (form : NumberForm K) (controls : Controls K) : Json :=
  .object [
    ("resolution", form controls.resolution),
    ("time", controls.time.toJson form),
    ("complex", .bool controls.complex),
    ("snapshot", optionalJson (SnapshotSpec.toJson form) controls.snapshot)]

def OutputSpec.toJson (output : OutputSpec) : Json :=
  .object [("ctl_file", optionalJson .string output.controlFile)]

def GeometrySpec.toJson (form : NumberForm K) (geometry : GeometrySpec K) : Json :=
  .object [
    ("elements", listJson (ElementSpec.toJson form) geometry.elements),
    ("overshot", form geometry.overshot),
    ("Z_direction", optionalJson (wrappedJson "size" form) geometry.thickness)]

def Collectors.toJson (form : NumberForm K) (collectors : Collectors K) : Json :=
  .object [
    ("spectral", listJson (wrappedJson "flux" (FluxSpec.toJson form)) collectors.spectral),
    ("temporal",
      listJson (wrappedJson "transient" (TransientSpec.toJson form)) collectors.temporal)]

def Description.toJson (form : NumberForm K) (description : Description K) : Json :=
  .object [
    ("version", .string description.version),
    ("comment", optionalJson .string description.comment),
    ("Output", optionalJson OutputSpec.toJson description.output),
    ("Geometry", description.geometry.toJson form),
    ("Sources", listJson (wrappedJson "source" (SourceSpec.toJson form)) description.sources),
    ("Collectors", description.collectors.toJson form),
    ("Controls", description.controls.toJson form)]

end Waveguide
