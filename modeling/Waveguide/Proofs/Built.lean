import Mathlib
import Waveguide.Proofs.Elements
import Waveguide.Proofs.Points

/-!
The layouts that can be built: from an empty one by adding lines and connectors, whether admitted or
not, and by centering. Every line of such a layout is as its declaration left it.
-/

namespace Waveguide

inductive Layout.Built : Layout ℚ → Prop
  | empty (thickness : Option ℚ) : Layout.Built (Layout.empty thickness)
  | line {layout : Layout ℚ} (spec : LineSpec ℚ) :
      Layout.Built layout → Layout.Built (layout.addLine spec).1
  | connector {layout : Layout ℚ} (spec : ConnectorSpec ℚ) :
      Layout.Built layout → Layout.Built (layout.addConnector spec).1
  | center {layout : Layout ℚ} : Layout.Built layout → Layout.Built layout.center

structure Line.Declared (line : Line ℚ) : Prop where
  property : line.property.Valid
  clearance : line.clearance = Clearance.ofProperty line.property
  skip : ∃ raw, line.skip = normalizeSkip raw
  ordered : line.start.x ≤ line.finish.x + Scalar.tolerance
  parent : line.parent = none

theorem Line.Declared.sound {line : Line ℚ} (declared : line.Declared) : line.Sound := by
  obtain ⟨raw, skip⟩ := declared.skip
  have padding := declared.property.padding
  have clearance := declared.clearance
  rw [Clearance.ofProperty_eq] at clearance
  exact {
    property := declared.property
    up := by rw [clearance]
    down := by rw [clearance]
    softUp := by
      rw [clearance]
      simp only
      linarith
    softDown := by
      rw [clearance]
      simp only
      linarith
    skip_nonneg := by
      rw [skip]
      exact normalizeSkip_nonneg raw
    skip_lt_one := by
      rw [skip]
      exact normalizeSkip_lt_one raw
    ordered := declared.ordered }

def Element.Declared (element : Element ℚ) : Prop := ∀ line, element = .line line → line.Declared

theorem Element.Declared.modifyTip {element : Element ℚ} (declared : element.Declared)
    {change : Endpoint ℚ → Endpoint ℚ} (fixed : ∀ point, (change point).x = point.x) (tip : Tip) :
    (element.modifyTip change tip).Declared := by
  cases element with
  | connector placed => cases tip <;> (intro line impossible; contradiction)
  | line placed =>
      have before := declared placed rfl
      cases tip with
      | start =>
          rintro line ⟨rfl⟩
          exact { before with ordered := by simpa only [fixed] using before.ordered }
      | finish =>
          rintro line ⟨rfl⟩
          exact { before with ordered := by simpa only [fixed] using before.ordered }

theorem Element.Declared.shift {element : Element ℚ} (declared : element.Declared)
    (offset : Point ℚ) : (element.shift offset).Declared := by
  cases element with
  | connector placed =>
      intro line impossible
      contradiction
  | line placed =>
      have before := declared placed rfl
      rintro line ⟨rfl⟩
      refine { before with ordered := ?_ }
      have ordered := before.ordered
      simp only [Endpoint.shift, Endpoint.x, Point.add] at ordered ⊢
      linarith

namespace Layout

def Declared (layout : Layout ℚ) : Prop := ∀ element ∈ layout.elements, element.Declared

theorem Declared.line {layout : Layout ℚ} (declared : layout.Declared) {handle : Nat}
    {line : Line ℚ} (found : layout.line? handle = some line) : line.Declared :=
  declared _ (List.mem_of_getElem? (line?_eq_some_iff.mp found)) line rfl

theorem Declared.modifyTip {layout : Layout ℚ} (declared : layout.Declared)
    (attachment : Attachment ℚ) {change : Endpoint ℚ → Endpoint ℚ}
    (fixed : ∀ point, (change point).x = point.x) :
    (layout.modifyTip attachment change).Declared := by
  intro element member
  obtain ⟨index, place⟩ := List.mem_iff_getElem?.mp member
  simp only [Layout.modifyTip, List.getElem?_modify, Option.map_eq_map, Option.map_eq_some_iff]
    at place
  obtain ⟨before, found, rfl⟩ := place
  have known := declared before (List.mem_of_getElem? found)
  split
  · exact known.modifyTip fixed attachment.tip
  · exact known

theorem Declared.markRight {layout : Layout ℚ} (declared : layout.Declared)
    (attachment : Option (Attachment ℚ)) : (layout.markRight attachment).Declared := by
  cases attachment with
  | none => exact declared
  | some attachment => exact declared.modifyTip attachment fun _ => rfl

theorem Declared.markLeft {layout : Layout ℚ} (declared : layout.Declared)
    (attachment : Option (Attachment ℚ)) : (layout.markLeft attachment).Declared := by
  cases attachment with
  | none => exact declared
  | some attachment => exact declared.modifyTip attachment fun _ => rfl

theorem Declared.push {layout : Layout ℚ} (declared : layout.Declared) {element : Element ℚ}
    (new : element.Declared) : (layout.push element).1.Declared := by
  have extended : ∀ other ∈ layout.elements ++ [element], other.Declared := by
    intro other member
    rcases List.mem_append.mp member with old | added
    · exact declared other old
    · rw [List.mem_singleton.mp added]
      exact new
  unfold Layout.push
  simp only
  split
  · exact extended
  · split
    · exact declared
    · exact extended

theorem prepareLine_declared {layout : Layout ℚ} {spec : LineSpec ℚ} {line : Line ℚ}
    (prepared : layout.prepareLine spec = .ok line) : line.Declared := by
  obtain ⟨start, finish, _, accepted, _, _, ordered, _, rfl⟩ := prepareLine_ok prepared
  exact {
    property := LineProperty.validate_ok accepted
    clearance := rfl
    skip := ⟨_, rfl⟩
    ordered := by
      simp only [Endpoint.attached, Endpoint.x]
      linarith
    parent := rfl }

theorem Declared.addLine {layout : Layout ℚ} (declared : layout.Declared) (spec : LineSpec ℚ) :
    (layout.addLine spec).1.Declared := by
  unfold Layout.addLine
  cases prepared : layout.prepareLine spec with
  | error failure => exact declared
  | ok line =>
      refine ((declared.markRight _).markLeft _).push ?_
      rintro _ ⟨rfl⟩
      exact prepareLine_declared prepared

theorem Declared.addConnector {layout : Layout ℚ} (declared : layout.Declared)
    (spec : ConnectorSpec ℚ) : (layout.addConnector spec).1.Declared := by
  unfold Layout.addConnector
  cases layout.prepareConnector spec with
  | error failure => exact declared
  | ok connector =>
      refine ((declared.markRight _).markRight _).push ?_
      intro line impossible
      contradiction

theorem Declared.center {layout : Layout ℚ} (declared : layout.Declared) :
    layout.center.Declared := by
  intro element member
  obtain ⟨before, known, rfl⟩ := List.mem_map.mp member
  exact (declared before known).shift _

theorem Built.declared {layout : Layout ℚ} (built : layout.Built) : layout.Declared := by
  induction built with
  | empty thickness => exact fun element impossible => absurd impossible List.not_mem_nil
  | line spec _ ih => exact ih.addLine spec
  | connector spec _ ih => exact ih.addConnector spec
  | center _ ih => exact ih.center

def ofLines (specs : List (LineSpec ℚ)) : Layout ℚ :=
  specs.foldl (fun layout spec => (layout.addLine spec).1) (Layout.empty none)

theorem built_ofLines (specs : List (LineSpec ℚ)) : (ofLines specs).Built := by
  suffices extended : ∀ layout : Layout ℚ, layout.Built →
      (specs.foldl (fun layout spec => (layout.addLine spec).1) layout).Built from
    extended _ (.empty none)
  induction specs with
  | nil => exact fun _ built => built
  | cons spec specs ih => exact fun _ built => ih _ (.line spec built)

end Layout

def LineSpec.between (property : LineProperty ℚ) (start finish : Point ℚ) : LineSpec ℚ :=
  let tip (point : Point ℚ) : PointSpec ℚ :=
    ⟨some point.x, some point.y, none, none, .start, none, none, none⟩
  ⟨none, none, tip start, tip finish, property⟩

def sampleGuide : LineProperty ℚ :=
  { width := 4
    padding := 1
    grooves := ⟨10, 2, 1⟩
    materials := ⟨.metal 1 1000000, .dielectric 1, .metal 1 1000000⟩ }

end Waveguide
