import Mathlib
import Waveguide.Description.Reader
import Waveguide.Description.Writer
import Waveguide.Proofs.Exact
import Waveguide.Proofs.Rendered

/-!
Descriptions that are written and read again. What a reader found in any document it finds again in
what its value is written as, section by section; so a description that was read once is the same
description ever after.
-/

namespace Waveguide

open Document

/-- Whatever was read from some node is read again from the node it is written as. -/
def Restores {α : Type} (read : Json → Option α) (write : α → Json) : Prop :=
  ∀ node value, read node = some value → read (write value) = some value

namespace Restores

variable {α : Type} {read : Json → Option α} {write : α → Json}

theorem optional (restores : Restores read write) (null : read .null = none) :
    Restores (nullable read) (optionalJson write) := by
  intro node value found
  rw [nullable] at found
  split at found
  · obtain rfl := Option.some.inj found
    rfl
  · obtain ⟨content, readContent, rfl⟩ := Option.map_eq_some_iff.mp found
    have again := restores node content readContent
    have present : isNull (write content) = false := by
      generalize write content = written at again
      cases written <;> simp_all [isNull, Json.isNull]
    simp [optionalJson, nullable, present, again]

theorem list (restores : Restores read write) : Restores (list? read) (listJson write) := by
  intro node values found
  obtain ⟨items, -, each⟩ := Option.bind_eq_some_iff.mp found
  change (values.map write).mapM read = some values
  clear found
  induction values generalizing items with
  | nil => rfl
  | cons value values ih =>
      cases items with
      | nil => simp at each
      | cons item items =>
          simp only [List.mapM_cons, Option.bind_eq_bind, Option.bind_eq_some_iff,
            Option.pure_def, Option.some.injEq, List.cons.injEq] at each
          obtain ⟨first, readFirst, others, readOthers, rfl, rfl⟩ := each
          simp only [List.map_cons, List.mapM_cons, restores item first readFirst,
            ih items readOthers, Option.pure_def, Option.bind_eq_bind, Option.bind_some]

/-! The fields of a record that is written with a name for every field. -/

variable {record : Record Json} {fields : List (String × Json)} {name : String} {value : α}

theorem required (restores : Restores read write) (found : record.required name read = some value)
    (written : fields.lookup name = some (write value)) :
    Record.required ⟨fields, false⟩ name read = some value := by
  obtain ⟨node, -, found⟩ := Option.bind_eq_some_iff.mp found
  rw [Record.required, written]
  exact restores node value found

theorem withDefault (restores : Restores read write) {default : α}
    (stable : read (write default) = some default)
    (found : record.withDefault name default read = some value)
    (written : fields.lookup name = some (write value)) :
    Record.withDefault ⟨fields, false⟩ name default read = some value := by
  rw [Record.withDefault] at found
  rw [Record.withDefault, written]
  cases held : record.fields.lookup name with
  | none =>
      rw [held] at found
      obtain rfl := Option.some.inj found
      exact stable
  | some node =>
      rw [held] at found
      exact restores node value found

theorem absentable (restores : Restores read write) (null : read .null = none) {value : Option α}
    (found : record.optional name read = some value)
    (written : fields.lookup name = some (optionalJson write value)) :
    Record.optional ⟨fields, false⟩ name read = some value :=
  (restores.optional null).withDefault rfl found written

end Restores

theorem distinct_of_nodup {fields : List (String × Json)}
    (nodup : (fields.map Prod.fst).Nodup) : distinct fields = true := by
  induction fields with
  | nil => rfl
  | cons field fields ih =>
      obtain ⟨name, node⟩ := field
      rw [List.map_cons, List.nodup_cons] at nodup
      simp only [distinct, Bool.and_eq_true, Bool.not_eq_true', List.any_eq_false, beq_iff_eq]
      refine ⟨fun other member same => nodup.1 ?_, ih nodup.2⟩
      exact List.mem_map.mpr ⟨other, member, same⟩

theorem record?_object {names : List String} {fields : List (String × Json)}
    (same : fields.map Prod.fst = names) (nodup : names.Nodup) :
    record? names (Json.object fields) = some ⟨fields, false⟩ := by
  subst same
  have kept : fields.filter (fun field => (fields.map Prod.fst).contains field.1) = fields := by
    rw [List.filter_eq_self]
    intro field member
    simpa using ⟨field.2, member⟩
  change namedRecord? _ fields = _
  simp only [namedRecord?, kept, distinct_of_nodup nodup, if_true]

variable {K : Type} [Numeral K]

/-- Every number that a text can give is written so that it reads back exactly, and so are the two
numbers that stand for missing ones. -/
structure NumberForm.Exact (form : NumberForm K) : Prop where
  read : ∀ (value : Decimal) (x : K), Numeral.ofFigure? (.finite value) = some x →
    number? (form x) = some x
  zero : number? (form 0) = some (0 : K)
  one : number? (form 1) = some (1 : K)

variable {form : NumberForm K}

theorem NumberForm.Exact.restores (exact : form.Exact) : Restores number? form := by
  intro node x found
  cases node with
  | number value => exact exact.read value.value x found
  | _ => cases found

theorem text_restores : Restores text? Json.string := fun _ _ _ => rfl

theorem flag_restores : Restores flag? Json.bool := fun _ _ _ => rfl

theorem count_restores : Restores count32? countJson := by
  intro node count read
  obtain ⟨size, -, small⟩ := Option.bind_eq_some_iff.mp read
  split at small
  · rename_i below
    obtain rfl := Option.some.inj small
    exact if_pos below
  · cases small

theorem Tip.ofName?_name (tip : Tip) : ofName? tip.name = some tip := by
  cases tip <;> rfl

theorem Profile.ofName?_name (profile : Profile) : ofName? profile.name = some profile := by
  cases profile <;> rfl

theorem Stop.ofName?_name (stop : Stop) : ofName? stop.name = some stop := by
  cases stop <;> rfl

/-! A section is taken apart into the fields it was read from. What it is written as has all of
them, each holding what its own reader restores. -/

theorem Direction.restores (exact : form.Exact) :
    Restores (Direction.ofDocument? (K := K)) (Direction.toJson form) := by
  intro node value read
  simp only [Direction.ofDocument?, Option.bind_eq_bind, Option.bind_eq_some_iff,
    Option.some.injEq] at read
  obtain ⟨record, -, x, atX, y, atY, rfl⟩ := read
  have numbers := exact.restores
  simp [Direction.ofDocument?, Direction.toJson, record?_object, List.lookup,
    numbers.required atX, numbers.required atY]

theorem Grooves.restores (exact : form.Exact) :
    Restores (Grooves.ofDocument? (K := K)) (Grooves.toJson form) := by
  intro node value read
  simp only [Grooves.ofDocument?, Option.bind_eq_bind, Option.bind_eq_some_iff,
    Option.some.injEq] at read
  obtain ⟨record, -, period, atPeriod, width, atWidth, depth, atDepth, rfl⟩ := read
  have numbers := exact.restores
  simp [Grooves.ofDocument?, Grooves.toJson, record?_object, List.lookup,
    numbers.required atPeriod, numbers.required atWidth, numbers.required atDepth]

theorem denoted_restores (exact : form.Exact) : Restores denotedNumber? form := exact.restores

theorem Medium.fields_of_read {node : Json} {medium : Medium K}
    (read : Medium.ofDocument? node = some medium) :
    ∃ kind records, Medium.ofFields? (ν := Json) kind records = some medium := by
  rw [Medium.ofDocument?] at read
  split at read
  · simp only [Option.bind_eq_bind, Option.bind_eq_some_iff] at read
    obtain ⟨-, -, kind, -, fields⟩ := read
    exact ⟨kind, _, fields⟩
  · simp only [Option.bind_eq_bind, Option.bind_eq_some_iff] at read
    obtain ⟨items, -, read⟩ := read
    split at read
    · cases read
    · obtain ⟨kind, -, fields⟩ := Option.bind_eq_some_iff.mp read
      exact ⟨kind, _, fields⟩

theorem Medium.tag_read (kind : String) :
    Record.required ⟨[("medium", Json.string kind)], false⟩ "medium" text? = some kind := rfl

theorem Medium.restores (exact : form.Exact) :
    Restores (Medium.ofDocument? (K := K)) (Medium.toJson form) := by
  intro node medium read
  have numbers := denoted_restores exact
  obtain ⟨kind, records, fields⟩ := Medium.fields_of_read read
  rw [Medium.ofFields?] at fields
  split_ifs at fields with metal dielectric
  · simp only [Option.bind_eq_bind, Option.bind_eq_some_iff, Option.some.injEq] at fields
    obtain ⟨record, -, epsilon, atEpsilon, conductivity, atConductivity, rfl⟩ := fields
    simp [Medium.ofDocument?, Medium.toJson, Medium.ofFields?, members?, Json.members?,
      namedRecord?, distinct, Medium.tag_read, List.lookup, numbers.withDefault exact.one atEpsilon,
      numbers.required atConductivity]
  · simp only [Option.bind_eq_bind, Option.bind_eq_some_iff, Option.some.injEq] at fields
    obtain ⟨record, -, epsilon, atEpsilon, rfl⟩ := fields
    simp [Medium.ofDocument?, Medium.toJson, Medium.ofFields?, members?, Json.members?,
      namedRecord?, distinct, Medium.tag_read, List.lookup, numbers.withDefault exact.one atEpsilon]

theorem LineMaterials.restores (exact : form.Exact) :
    Restores (LineMaterials.ofDocument? (K := K)) (LineMaterials.toJson form) := by
  intro node value read
  simp only [LineMaterials.ofDocument?, Option.bind_eq_bind, Option.bind_eq_some_iff,
    Option.some.injEq] at read
  obtain ⟨record, -, up, atUp, inner, atInner, down, atDown, rfl⟩ := read
  have media := Medium.restores exact
  simp [LineMaterials.ofDocument?, LineMaterials.toJson, record?_object, List.lookup,
    media.required atUp, media.required atInner, media.required atDown]

theorem Tip.restores_text :
    Restores (fun node => (text? node).bind ofName?) fun tip => .string tip.name :=
  fun _ tip _ => tip.ofName?_name

theorem Tip.restores_choice :
    Restores (fun node => (choice? node).bind ofName?) fun tip => .string tip.name :=
  fun _ tip _ => tip.ofName?_name

theorem Profile.restores :
    Restores (fun node => (choice? node).bind ofName?) fun profile => .string profile.name :=
  fun _ profile _ => profile.ofName?_name

theorem Stop.restores :
    Restores (fun node => (choice? node).bind ofName?) fun stop => .string stop.name :=
  fun _ stop _ => stop.ofName?_name

theorem PointSpec.restores (exact : form.Exact) :
    Restores (PointSpec.ofDocument? (K := K)) (PointSpec.toJson form) := by
  intro node value read
  simp only [PointSpec.ofDocument?, Option.bind_eq_bind, Option.bind_eq_some_iff,
    Option.some.injEq] at read
  obtain ⟨record, -, x, atX, y, atY, reference, atReference, attached, atAttached, tip, atTip,
    skip, atSkip, periods, atPeriods, direction, atDirection, rfl⟩ := read
  have numbers := exact.restores
  simp [PointSpec.ofDocument?, PointSpec.toJson, record?_object, List.lookup,
    numbers.absentable rfl atX, numbers.absentable rfl atY,
    text_restores.absentable rfl atReference, text_restores.absentable rfl atAttached,
    Tip.restores_text.withDefault rfl atTip,
    numbers.absentable rfl atSkip, numbers.absentable rfl atPeriods,
    (Direction.restores exact).absentable rfl atDirection]

theorem LineProperty.restores (exact : form.Exact) :
    Restores (LineProperty.ofDocument? (K := K)) (LineProperty.toJson form) := by
  intro node value read
  simp only [LineProperty.ofDocument?, Option.bind_eq_bind, Option.bind_eq_some_iff,
    Option.some.injEq] at read
  obtain ⟨record, -, width, atWidth, padding, atPadding, grooves, atGrooves, materials,
    atMaterials, rfl⟩ := read
  have numbers := exact.restores
  simp [LineProperty.ofDocument?, LineProperty.toJson, record?_object, List.lookup,
    numbers.required atWidth, numbers.withDefault exact.zero atPadding,
    (Grooves.restores exact).required atGrooves,
    (LineMaterials.restores exact).required atMaterials]

theorem LineSpec.restores (exact : form.Exact) :
    Restores (LineSpec.ofDocument? (K := K)) (LineSpec.toJson form) := by
  intro node value read
  simp only [LineSpec.ofDocument?, Option.bind_eq_bind, Option.bind_eq_some_iff,
    Option.some.injEq] at read
  obtain ⟨record, -, id, atId, comment, atComment, start, atStart, finish, atFinish, property,
    atProperty, rfl⟩ := read
  have points := PointSpec.restores exact
  simp [LineSpec.ofDocument?, LineSpec.toJson, record?_object, List.lookup,
    elementJson, text_restores.absentable rfl atId, text_restores.absentable rfl atComment,
    points.required atStart, points.required atFinish,
    (LineProperty.restores exact).required atProperty]

theorem Restores.wrapped {α : Type} {read : Json → Option α} {write : α → Json}
    (restores : Restores read write) (name : String) :
    Restores (wrapped name read) (wrappedJson name write) := by
  intro node value found
  simp only [Waveguide.wrapped, Option.bind_eq_bind, Option.bind_eq_some_iff] at found
  obtain ⟨record, -, found⟩ := found
  simp [Waveguide.wrapped, wrappedJson, record?_object, List.lookup, restores.required found]

theorem ConnectorProperty.restores (exact : form.Exact) :
    Restores (ConnectorProperty.ofDocument? (K := K)) (ConnectorProperty.toJson form) := by
  intro node value read
  simp only [ConnectorProperty.ofDocument?, Option.bind_eq_bind, Option.bind_eq_some_iff,
    Option.some.injEq] at read
  obtain ⟨record, -, width, atWidth, inner, atInner, rfl⟩ := read
  have numbers := exact.restores
  simp [ConnectorProperty.ofDocument?, ConnectorProperty.toJson, record?_object, List.lookup,
    numbers.required atWidth, ((Medium.restores exact).wrapped "in").required atInner]

theorem ConnectorSpec.restores (exact : form.Exact) :
    Restores (ConnectorSpec.ofDocument? (K := K)) (ConnectorSpec.toJson form) := by
  intro node value read
  simp only [ConnectorSpec.ofDocument?, Option.bind_eq_bind, Option.bind_eq_some_iff,
    Option.some.injEq] at read
  obtain ⟨record, -, id, atId, comment, atComment, start, atStart, finish, atFinish, property,
    atProperty, rfl⟩ := read
  have points := PointSpec.restores exact
  simp [ConnectorSpec.ofDocument?, ConnectorSpec.toJson, record?_object, List.lookup,
    elementJson, text_restores.absentable rfl atId, text_restores.absentable rfl atComment,
    points.required atStart, points.required atFinish,
    (ConnectorProperty.restores exact).required atProperty]

theorem ElementSpec.restores (exact : form.Exact) :
    Restores (ElementSpec.ofDocument? (K := K)) (ElementSpec.toJson form) := by
  intro node value read
  simp only [ElementSpec.ofDocument?, Option.bind_eq_bind, Option.bind_eq_some_iff] at read
  obtain ⟨members, -, read⟩ := read
  split at read
  · rename_i kind content
    split_ifs at read with line connector
    · obtain ⟨spec, readSpec, rfl⟩ := Option.map_eq_some_iff.mp read
      exact congrArg (Option.map _) (LineSpec.restores exact content spec readSpec)
    · obtain ⟨spec, readSpec, rfl⟩ := Option.map_eq_some_iff.mp read
      exact congrArg (Option.map _) (ConnectorSpec.restores exact content spec readSpec)
  · cases read

theorem PositionSpec.restores (exact : form.Exact) :
    Restores (PositionSpec.ofDocument? (K := K)) (PositionSpec.toJson form) := by
  intro node value read
  simp only [PositionSpec.ofDocument?, Option.bind_eq_bind, Option.bind_eq_some_iff,
    Option.some.injEq] at read
  obtain ⟨record, -, x, atX, y, atY, width, atWidth, reference, atReference, tip, atTip,
    rfl⟩ := read
  have numbers := exact.restores
  simp [PositionSpec.ofDocument?, PositionSpec.toJson, record?_object, List.lookup,
    numbers.withDefault exact.zero atX, numbers.withDefault exact.zero atY,
    numbers.withDefault exact.zero atWidth, text_restores.absentable rfl atReference,
    Tip.restores_choice.withDefault rfl atTip]

theorem SourceProperty.restores (exact : form.Exact) :
    Restores (SourceProperty.ofDocument? (K := K)) (SourceProperty.toJson form) := by
  intro node value read
  simp only [SourceProperty.ofDocument?, Option.bind_eq_bind, Option.bind_eq_some_iff,
    Option.some.injEq] at read
  obtain ⟨record, -, component, atComponent, profile, atProfile, center, atCenter, width, atWidth,
    rfl⟩ := read
  have numbers := exact.restores
  simp [SourceProperty.ofDocument?, SourceProperty.toJson, record?_object, List.lookup,
    text_restores.required atComponent, Profile.restores.required atProfile,
    numbers.required atCenter, numbers.required atWidth]

theorem SourceSpec.restores (exact : form.Exact) :
    Restores (SourceSpec.ofDocument? (K := K)) (SourceSpec.toJson form) := by
  intro node value read
  simp only [SourceSpec.ofDocument?, Option.bind_eq_bind, Option.bind_eq_some_iff,
    Option.some.injEq] at read
  obtain ⟨record, -, comment, atComment, position, atPosition, property, atProperty, rfl⟩ := read
  simp [SourceSpec.ofDocument?, SourceSpec.toJson, record?_object, List.lookup,
    text_restores.absentable rfl atComment, (PositionSpec.restores exact).required atPosition,
    (SourceProperty.restores exact).required atProperty]

theorem FluxProperty.restores (exact : form.Exact) :
    Restores (FluxProperty.ofDocument? (K := K)) (FluxProperty.toJson form) := by
  intro node value read
  simp only [FluxProperty.ofDocument?, Option.bind_eq_bind, Option.bind_eq_some_iff,
    Option.some.injEq] at read
  obtain ⟨record, -, center, atCenter, width, atWidth, resolution, atResolution, rfl⟩ := read
  have numbers := exact.restores
  simp [FluxProperty.ofDocument?, FluxProperty.toJson, record?_object, List.lookup,
    numbers.required atCenter, numbers.required atWidth, count_restores.required atResolution]

theorem FluxSpec.restores (exact : form.Exact) :
    Restores (FluxSpec.ofDocument? (K := K)) (FluxSpec.toJson form) := by
  intro node value read
  simp only [FluxSpec.ofDocument?, Option.bind_eq_bind, Option.bind_eq_some_iff,
    Option.some.injEq] at read
  obtain ⟨record, -, comment, atComment, position, atPosition, property, atProperty, rfl⟩ := read
  simp [FluxSpec.ofDocument?, FluxSpec.toJson, record?_object, List.lookup,
    text_restores.absentable rfl atComment, (PositionSpec.restores exact).required atPosition,
    (FluxProperty.restores exact).required atProperty]

theorem TransientSpec.restores (exact : form.Exact) :
    Restores (TransientSpec.ofDocument? (K := K)) (TransientSpec.toJson form) := by
  intro node value read
  simp only [TransientSpec.ofDocument?, Option.bind_eq_bind, Option.bind_eq_some_iff,
    Option.some.injEq] at read
  obtain ⟨record, -, comment, atComment, component, atComponent, field, atField, interval,
    atInterval,
    position, atPosition, rfl⟩ := read
  have numbers := exact.restores
  simp [TransientSpec.ofDocument?, TransientSpec.toJson, record?_object, List.lookup,
    text_restores.absentable rfl atComment, text_restores.required atComponent,
    text_restores.withDefault rfl atField, numbers.absentable rfl atInterval,
    (PositionSpec.restores exact).absentable rfl atPosition]

theorem SnapshotSpec.restores (exact : form.Exact) :
    Restores (SnapshotSpec.ofDocument? (K := K)) (SnapshotSpec.toJson form) := by
  intro node value read
  simp only [SnapshotSpec.ofDocument?, Option.bind_eq_bind, Option.bind_eq_some_iff,
    Option.some.injEq] at read
  obtain ⟨record, -, component, atComponent, field, atField, interval, atInterval, rfl⟩ := read
  have numbers := exact.restores
  simp [SnapshotSpec.ofDocument?, SnapshotSpec.toJson, record?_object, List.lookup,
    text_restores.required atComponent, text_restores.withDefault rfl atField,
    numbers.absentable rfl atInterval]

theorem TimeSpec.restores (exact : form.Exact) :
    Restores (TimeSpec.ofDocument? (K := K)) (TimeSpec.toJson form) := by
  intro node value read
  simp only [TimeSpec.ofDocument?, Option.bind_eq_bind, Option.bind_eq_some_iff,
    Option.some.injEq] at read
  obtain ⟨record, -, stop, atStop, duration, atDuration, only, atOnly, rfl⟩ := read
  have numbers := exact.restores
  simp [TimeSpec.ofDocument?, TimeSpec.toJson, record?_object, List.lookup,
    Stop.restores.required atStop, numbers.withDefault exact.zero atDuration,
    flag_restores.withDefault rfl atOnly]

theorem Controls.restores (exact : form.Exact) :
    Restores (Controls.ofDocument? (K := K)) (Controls.toJson form) := by
  intro node value read
  simp only [Controls.ofDocument?, Option.bind_eq_bind, Option.bind_eq_some_iff,
    Option.some.injEq] at read
  obtain ⟨record, -, resolution, atResolution, time, atTime, complex, atComplex, snapshot,
    atSnapshot, rfl⟩ := read
  have numbers := exact.restores
  simp [Controls.ofDocument?, Controls.toJson, record?_object, List.lookup,
    numbers.required atResolution, (TimeSpec.restores exact).required atTime,
    flag_restores.withDefault rfl atComplex,
    (SnapshotSpec.restores exact).absentable rfl atSnapshot]

theorem OutputSpec.restores : Restores OutputSpec.ofDocument? OutputSpec.toJson := by
  intro node value read
  simp only [OutputSpec.ofDocument?, Option.bind_eq_bind, Option.bind_eq_some_iff] at read
  obtain ⟨record, -, read⟩ := read
  split_ifs at read with short
  · cases read
  obtain ⟨-, -, read⟩ := Option.bind_eq_some_iff.mp read
  obtain ⟨controlFile, atControlFile, value_eq⟩ := Option.bind_eq_some_iff.mp read
  obtain rfl := Option.some.inj value_eq
  simp [OutputSpec.ofDocument?, OutputSpec.toJson, record?_object, List.lookup,
    text_restores.absentable rfl atControlFile]

theorem GeometrySpec.restores (exact : form.Exact) :
    Restores (GeometrySpec.ofDocument? (K := K)) (GeometrySpec.toJson form) := by
  intro node value read
  simp only [GeometrySpec.ofDocument?, Option.bind_eq_bind, Option.bind_eq_some_iff,
    Option.some.injEq] at read
  obtain ⟨record, -, elements, atElements, overshot, atOvershot, thickness, atThickness,
    rfl⟩ := read
  have numbers := exact.restores
  simp [GeometrySpec.ofDocument?, GeometrySpec.toJson, record?_object, List.lookup,
    (ElementSpec.restores exact).list.withDefault rfl atElements,
    numbers.withDefault exact.zero atOvershot,
    (numbers.wrapped "size").absentable rfl atThickness]

theorem Collectors.restores (exact : form.Exact) :
    Restores (Collectors.ofDocument? (K := K)) (Collectors.toJson form) := by
  intro node value read
  simp only [Collectors.ofDocument?, Option.bind_eq_bind, Option.bind_eq_some_iff,
    Option.some.injEq] at read
  obtain ⟨record, -, spectral, atSpectral, temporal, atTemporal, rfl⟩ := read
  simp [Collectors.ofDocument?, Collectors.toJson, record?_object, List.lookup,
    ((FluxSpec.restores exact).wrapped "flux").list.withDefault rfl atSpectral,
    ((TransientSpec.restores exact).wrapped "transient").list.withDefault rfl atTemporal]

theorem Description.restores (exact : form.Exact) :
    Restores (Description.ofDocument? (K := K)) (Description.toJson form) := by
  intro node value read
  simp only [Description.ofDocument?, Option.bind_eq_bind, Option.bind_eq_some_iff,
    Option.some.injEq] at read
  obtain ⟨record, -, version, atVersion, comment, atComment, output, atOutput, geometry, atGeometry,
    sources, atSources, collectors, atCollectors, controls, atControls, rfl⟩ := read
  simp [Description.ofDocument?, Description.toJson, record?_object, List.lookup,
    text_restores.required atVersion, text_restores.absentable rfl atComment,
    OutputSpec.restores.absentable rfl atOutput, (GeometrySpec.restores exact).required atGeometry,
    ((SourceSpec.restores exact).wrapped "source").list.withDefault rfl atSources,
    (Collectors.restores exact).withDefault rfl atCollectors,
    (Controls.restores exact).required atControls]

namespace Exact

def places (x : ℚ) : Nat :=
  ((List.range (Nat.log 2 x.den + 1)).find? fun count => x.den ∣ 10 ^ (count + 1)).getD 0 + 1

def fullForm : NumberForm ℚ := fun x =>
  .number (.decimal ⟨decide (x < 0), x.num.natAbs * 10 ^ places x / x.den, -places x⟩)

theorem den_dvd_of_scaled {x : ℚ} (scaled : ℤ) {count : Nat}
    (eq : x = scaled / (10 : ℚ) ^ count) :
    x.den ∣ 10 ^ count := by
  have divides := Rat.den_dvd scaled (10 ^ count)
  rw [Rat.divInt_eq_div, Int.cast_pow, Int.cast_ofNat, ← eq] at divides
  exact_mod_cast divides

theorem den_dvd_of_read {value : Decimal} {x : ℚ} (read : ofFigure? (.finite value) = some x) :
    ∃ count, x.den ∣ 10 ^ count := by
  obtain ⟨negative, digits, exponent⟩ := value
  let signed : ℤ := if negative then -digits else digits
  have eq : x = signed * (10 : ℚ) ^ exponent := by
    have eq := Option.some.inj read
    cases negative <;> simp [signed, ← eq]
  cases exponent with
  | ofNat size =>
      refine ⟨0, den_dvd_of_scaled (signed * 10 ^ size) ?_⟩
      rw [eq]
      simp
  | negSucc places =>
      refine ⟨places + 1, den_dvd_of_scaled signed ?_⟩
      rw [eq, zpow_negSucc, div_eq_mul_inv]

theorem dvd_pow_log {size count : Nat} (divides : size ∣ 10 ^ count) :
    size ∣ 10 ^ Nat.log 2 size := by
  have positive : 0 < size := Nat.pos_of_dvd_of_pos divides (by positivity)
  rw [Nat.dvd_iff_prime_pow_dvd_dvd]
  intro prime power isPrime factor
  rcases Nat.eq_zero_or_pos power with rfl | nonzero
  · simp
  have base : prime ∣ 10 :=
    isPrime.dvd_of_dvd_pow ((dvd_pow_self prime nonzero.ne').trans (factor.trans divides))
  have bounded : power ≤ Nat.log 2 size := by
    apply Nat.le_log_of_pow_le Nat.one_lt_two
    exact (Nat.pow_le_pow_left isPrime.two_le power).trans (Nat.le_of_dvd positive factor)
  exact (pow_dvd_pow_of_dvd base power).trans (pow_dvd_pow 10 bounded)

theorem den_dvd_places {x : ℚ} {count : Nat} (divides : x.den ∣ 10 ^ count) :
    x.den ∣ 10 ^ places x := by
  rw [places]
  cases found : (List.range (Nat.log 2 x.den + 1)).find? fun count => x.den ∣ 10 ^ (count + 1) with
  | some count => simpa using List.find?_some found
  | none =>
      have enough := List.find?_eq_none.mp found (Nat.log 2 x.den) (by simp)
      have divides := (dvd_pow_log divides).trans (pow_dvd_pow 10 (Nat.le_succ _))
      exact absurd divides (by simpa using enough)

theorem ofFigure?_finite (negative : Bool) (digits : Nat) (exponent : ℤ) :
    ofFigure? (.finite ⟨negative, digits, exponent⟩) =
      some (if negative then -((digits : ℚ) * 10 ^ exponent) else digits * 10 ^ exponent) := rfl

theorem fullForm_reads {x : ℚ} (divides : x.den ∣ 10 ^ places x) :
    number? (fullForm x) = some x := by
  have whole : ((x.num.natAbs * 10 ^ places x / x.den : Nat) : ℚ) = |x| * 10 ^ places x := by
    rw [Nat.cast_div (divides.mul_left _) (by exact_mod_cast x.den_nz), Rat.abs_def,
      Rat.divInt_eq_div, Nat.cast_mul, Nat.cast_pow, Nat.cast_ofNat, Int.cast_natCast,
      Int.cast_natCast]
    ring
  have size : ((x.num.natAbs * 10 ^ places x / x.den : Nat) : ℚ) * 10 ^ (-(places x : ℤ)) =
      |x| := by
    rw [whole, zpow_neg, zpow_natCast, mul_inv_cancel_right₀ (by positivity)]
  change ofFigure? (.finite ⟨decide (x < 0), x.num.natAbs * 10 ^ places x / x.den, _⟩) = some x
  rw [ofFigure?_finite, size]
  by_cases negative : x < 0
  · simp [negative, abs_of_neg]
  · simp [negative, abs_of_nonneg (not_lt.mp negative)]

theorem fullForm_exact : fullForm.Exact := by
  have reads (value : Decimal) (x : ℚ) (read : ofFigure? (.finite value) = some x) :
      number? (fullForm x) = some x := by
    obtain ⟨count, divides⟩ := den_dvd_of_read read
    exact fullForm_reads (den_dvd_places divides)
  exact ⟨reads, reads ⟨false, 0, 0⟩ 0 (by simp [ofFigure?_finite]),
    reads ⟨false, 1, 0⟩ 1 (by simp [ofFigure?_finite])⟩

end Exact

theorem Description.ofJson?_render (json : Json) :
    Description.ofJson? (K := K) json.render = Description.ofDocument? json := by
  rw [Description.ofJson?, Json.parse?_render, Option.bind_some]

/-- A description that was read from some text and is written with all its fields is read back as
it was. No two descriptions are therefore written alike. -/
theorem Description.reread_written (exact : form.Exact) {text : String}
    {description : Description K} (read : Description.ofJson? text = some description) :
    Description.ofJson? (description.toJson form).render = some description ∧
      ∀ other otherText, Description.ofJson? otherText = some other →
        (other.toJson form).render = (description.toJson form).render → other = description := by
  have reread {text : String} {description : Description K}
      (read : Description.ofJson? text = some description) :
      Description.ofJson? (description.toJson form).render = some description := by
    obtain ⟨node, -, found⟩ := Option.bind_eq_some_iff.mp read
    rw [Description.ofJson?_render]
    exact Description.restores exact node description found
  refine ⟨reread read, fun other otherText readOther alike => ?_⟩
  have again := reread readOther
  rw [alike, reread read] at again
  exact (Option.some.inj again).symm

def sparseJson : Json :=
  let number (digits : Nat) (exponent : Int) : Json := .number (.decimal ⟨false, digits, exponent⟩)
  let dielectric : Json := .object [("medium", .string "dielectric")]
  let metal : Json := .array [.string "metal", number 12 (-1), number 1 7]
  .object [
    ("version", .string "3.0"),
    ("Geometry", .object [
      ("elements", .array [
        .object [("line", .object [
          ("start", .object [("x", number 0 0), ("y", number 15 (-2)), ("attached_to", .null)]),
          ("end", .object [("periods", number 3 0), ("point", .string "end")]),
          ("property", .object [
            ("width", number 4 (-1)),
            ("grooves", .array [number 1 0, number 5 (-1), number 1 (-1)]),
            ("materials", .object [("up", metal), ("in", dielectric), ("down", metal)])])])]]),
      ("Z_direction", .object [("size", number 25 (-1))])]),
    ("Sources", .array [.object [("source", .object [
      ("position", .object [("ref", .string "guide")]),
      ("property", .object [
        ("component", .string "Ez"),
        ("type", .object [("pulse", .null)]),
        ("center", number 1 (-1)),
        ("width", number 2 (-2))])])]]),
    ("Controls", .object [
      ("resolution", number 10 0),
      ("time", .object [("type", .string "decay")])])]

def sparseDescription : Description ℚ where
  version := "3.0"
  comment := none
  output := none
  geometry :=
    { elements := [
        .line {
          id := none
          comment := none
          start := ⟨some 0, some (3 / 20), none, none, .start, none, none, none⟩
          finish := ⟨none, none, none, none, .finish, none, some 3, none⟩
          property :=
            { width := 2 / 5
              padding := 0
              grooves := ⟨1, 1 / 2, 1 / 10⟩
              materials :=
                ⟨.metal (6 / 5) 10000000, .dielectric 1, .metal (6 / 5) 10000000⟩ } }]
      overshot := 0
      thickness := some (5 / 2) }
  sources := [⟨none, ⟨0, 0, 0, some "guide", .start⟩, ⟨"Ez", .pulse, 1 / 10, 1 / 50⟩⟩]
  collectors := ⟨[], []⟩
  controls := ⟨10, ⟨.decay, 0, false⟩, false, none⟩

theorem sparseJson_reread :
    Description.ofJson? sparseJson.render = some sparseDescription ∧
      Description.ofJson? (sparseDescription.toJson Exact.fullForm).render =
        some sparseDescription := by
  have read : Description.ofJson? sparseJson.render = some sparseDescription := by
    rw [Description.ofJson?_render]
    decide +kernel
  exact ⟨read, (Description.reread_written Exact.fullForm_exact read).1⟩

end Waveguide
