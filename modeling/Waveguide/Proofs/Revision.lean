import Mathlib
import Waveguide.Proofs.Elements

/-!
What an operation on a layout may make of the elements that are already there: lines are moved,
marked, softened and cut, connectors are moved and marked. The names, the kinds and the measures of
the elements stay, and no point is attached to anything new.
-/

namespace Waveguide

def Element.elevation : Element ℚ → Option ℚ
  | .line self => self.elevation
  | .connector self => self.elevation

/-- What every line that can be reached satisfies: it is sound, its skip is none or well inside a
period, and it is horizontal within the tolerance. -/
structure Line.Proper (line : Line ℚ) : Prop extends line.Sound where
  phase : line.skip = 0 ∨ Scalar.tolerance ≤ line.skip ∧ line.skip ≤ 1 - Scalar.tolerance
  flat : |line.start.y - line.finish.y| ≤ Scalar.tolerance

theorem normalizeSkip_phase (skip : ℚ) :
    normalizeSkip skip = 0 ∨
      Scalar.tolerance ≤ normalizeSkip skip ∧ normalizeSkip skip ≤ 1 - Scalar.tolerance := by
  rw [normalizeSkip_eq]
  split
  · exact Or.inl rfl
  · rename_i inside
    push Not at inside
    exact Or.inr inside

namespace Line.Proper

variable {line : Line ℚ} {x : ℚ}

theorem leftPart (proper : line.Proper) (inside : line.start.x < x) : (line.leftPart x).Proper :=
  { proper.toSound.leftPart inside with phase := proper.phase, flat := proper.flat }

theorem rightPart (proper : line.Proper) (inside : x < line.finish.x) (parent : Nat) :
    (line.rightPart x parent).Proper :=
  { proper.toSound.rightPart inside with
    phase := normalizeSkip_phase _
    flat := by
      simp only [Line.rightPart, Endpoint.plain, Endpoint.y, sub_self, abs_zero]
      exact Scalar.tolerance_pos.le }

end Line.Proper

/-- A later state of a line: moved, marked, softened or cut, and attached to nothing new. -/
structure Line.Revision (old new : Line ℚ) : Prop where
  id : new.id = old.id
  comment : new.comment = old.comment
  property : new.property = old.property
  elevation : new.elevation = old.elevation
  parent : new.parent = old.parent
  start : ∀ attachment, new.start.attachment = some attachment →
    old.start.attachment = some attachment
  finish : ∀ attachment, new.finish.attachment = some attachment →
    old.finish.attachment = some attachment
  proper : old.Proper → new.Proper

structure Connector.Revision (old new : Connector ℚ) : Prop where
  id : new.id = old.id
  property : new.property = old.property
  elevation : new.elevation = old.elevation
  start : new.start.attachment = old.start.attachment
  finish : new.finish.attachment = old.finish.attachment

inductive Element.Revision : Element ℚ → Element ℚ → Prop
  | line {old new : Line ℚ} : old.Revision new → Element.Revision (.line old) (.line new)
  | connector {old new : Connector ℚ} : old.Revision new →
      Element.Revision (.connector old) (.connector new)

namespace Line.Revision

theorem refl (line : Line ℚ) : line.Revision line :=
  ⟨rfl, rfl, rfl, rfl, rfl, fun _ same => same, fun _ same => same, fun proper => proper⟩

theorem leftPart (line : Line ℚ) {x : ℚ} (inside : line.start.x < x) :
    line.Revision (line.leftPart x) :=
  { refl line with
    finish := fun _ impossible => absurd impossible (by simp [Line.leftPart, Endpoint.plain])
    proper := fun proper => proper.leftPart inside }

theorem withSoftUp {line : Line ℚ} {softUp : ℚ} (enough : line.property.reach ≤ softUp) :
    line.Revision (line.withSoftUp softUp) :=
  { refl line with proper := fun proper => { proper with softUp := enough } }

theorem withSoftDown {line : Line ℚ} {softDown : ℚ} (enough : line.property.reach ≤ softDown) :
    line.Revision (line.withSoftDown softDown) :=
  { refl line with proper := fun proper => { proper with softDown := enough } }

end Line.Revision

namespace Element.Revision

theorem refl (element : Element ℚ) : element.Revision element := by
  cases element with
  | line placed => exact .line (.refl placed)
  | connector placed => exact .connector ⟨rfl, rfl, rfl, rfl, rfl⟩

theorem modifyTip (element : Element ℚ) {change : Endpoint ℚ → Endpoint ℚ}
    (position : ∀ point, (change point).position = point.position)
    (attachment : ∀ point, (change point).attachment = point.attachment) (tip : Tip) :
    element.Revision (element.modifyTip change tip) := by
  have x : ∀ point, (change point).x = point.x := fun point => congrArg Point.x (position point)
  have y : ∀ point, (change point).y = point.y := fun point => congrArg Point.y (position point)
  cases element with
  | line placed =>
      cases tip with
      | start =>
          refine .line { Line.Revision.refl placed with start := ?_, proper := ?_ }
          · exact fun _ same => (attachment _).symm.trans same
          · exact fun proper => { proper with
              ordered := by simpa only [x] using proper.ordered
              flat := by simpa only [y] using proper.flat }
      | finish =>
          refine .line { Line.Revision.refl placed with finish := ?_, proper := ?_ }
          · exact fun _ same => (attachment _).symm.trans same
          · exact fun proper => { proper with
              ordered := by simpa only [x] using proper.ordered
              flat := by simpa only [y] using proper.flat }
  | connector placed =>
      cases tip with
      | start => exact .connector ⟨rfl, rfl, rfl, attachment _, rfl⟩
      | finish => exact .connector ⟨rfl, rfl, rfl, rfl, attachment _⟩

theorem shift (element : Element ℚ) (offset : Point ℚ) :
    element.Revision (element.shift offset) := by
  cases element with
  | connector placed => exact .connector ⟨rfl, rfl, rfl, rfl, rfl⟩
  | line placed =>
      refine .line { Line.Revision.refl placed with proper := ?_ }
      intro proper
      have ordered := proper.ordered
      have flat := proper.flat
      refine { proper with ordered := ?_, flat := ?_ }
      · simp only [Endpoint.shift, Endpoint.x, Point.add] at ordered ⊢
        linarith
      · simpa only [Endpoint.shift, Endpoint.y, Point.add, add_sub_add_right_eq_sub] using flat

variable {old new : Element ℚ}

theorem id (revision : old.Revision new) : new.id = old.id := by
  cases revision with
  | line known => exact known.id
  | connector known => exact known.id

theorem elevation (revision : old.Revision new) : new.elevation = old.elevation := by
  cases revision with
  | line known => exact known.elevation
  | connector known => exact known.elevation

theorem kind (revision : old.Revision new) : new.kind = old.kind := by
  cases revision with
  | line known => rfl
  | connector known => rfl

theorem width (revision : old.Revision new) : new.width = old.width := by
  cases revision with
  | line known => exact congrArg LineProperty.width known.property
  | connector known => exact congrArg ConnectorProperty.width known.property

theorem attachment (revision : old.Revision new) {tip : Tip} {attachment : Attachment ℚ}
    (attached : (new.tip tip).attachment = some attachment) :
    (old.tip tip).attachment = some attachment := by
  cases revision with
  | line known =>
      cases tip with
      | start => exact known.start attachment attached
      | finish => exact known.finish attachment attached
  | connector known =>
      cases tip with
      | start => exact known.start.symm.trans attached
      | finish => exact known.finish.symm.trans attached

end Element.Revision

namespace Layout

structure Carries (layout other : Layout ℚ) : Prop where
  thickness : other.thickness = layout.thickness
  kept : ∀ (place : Nat) (element : Element ℚ), layout.elements[place]? = some element →
    ∃ new : Element ℚ, other.elements[place]? = some new ∧ element.Revision new

namespace Carries

variable {layout other : Layout ℚ}

theorem line? (carries : layout.Carries other) {handle : Nat} {line : Line ℚ}
    (found : layout.line? handle = some line) :
    ∃ new, other.line? handle = some new ∧ line.Revision new := by
  obtain ⟨element, placed, revision⟩ := carries.kept handle _ (line?_eq_some_iff.mp found)
  cases revision with
  | line known => exact ⟨_, line?_eq_some_iff.mpr placed, known⟩

end Carries

/-- A layout with the same names, and at every place a later state of the element that was there. -/
structure Revision (layout other : Layout ℚ) : Prop extends layout.Carries other where
  index : other.index = layout.index
  known : ∀ (place : Nat) (new : Element ℚ), other.elements[place]? = some new →
    ∃ element : Element ℚ, layout.elements[place]? = some element ∧ element.Revision new

theorem Carries.length_le {layout other : Layout ℚ} (carries : layout.Carries other) :
    layout.elements.length ≤ other.elements.length := by
  by_contra shorter
  obtain ⟨_, there, _⟩ := carries.kept _ _ (List.getElem?_eq_getElem (not_le.mp shorter))
  simp at there

theorem Revision.length {layout other : Layout ℚ} (revision : layout.Revision other) :
    other.elements.length = layout.elements.length := by
  apply le_antisymm _ revision.toCarries.length_le
  by_contra longer
  obtain ⟨_, there, _⟩ := revision.known _ _ (List.getElem?_eq_getElem (not_le.mp longer))
  simp at there

theorem revision_of_map {layout other : Layout ℚ} {change : Nat → Element ℚ → Element ℚ}
    (index : other.index = layout.index) (thickness : other.thickness = layout.thickness)
    (elements : ∀ place, other.elements[place]? = layout.elements[place]?.map (change place))
    (revision : ∀ (place : Nat) (element : Element ℚ), layout.elements[place]? = some element →
      element.Revision (change place element)) : layout.Revision other where
  index := index
  thickness := thickness
  kept place element found :=
    ⟨_, by rw [elements, found, Option.map_some], revision place element found⟩
  known place new found := by
    rw [elements, Option.map_eq_some_iff] at found
    obtain ⟨element, there, rfl⟩ := found
    exact ⟨element, there, revision place element there⟩

section Operations

variable {layout : Layout ℚ}

theorem revision_modifyTip (layout : Layout ℚ) (attachment : Attachment ℚ)
    {change : Endpoint ℚ → Endpoint ℚ}
    (position : ∀ point, (change point).position = point.position)
    (attached : ∀ point, (change point).attachment = point.attachment) :
    layout.Revision (layout.modifyTip attachment change) := by
  refine revision_of_map rfl rfl (fun place => List.getElem?_modify _ _ _ place) ?_
  intro place element _
  split
  · exact .modifyTip element position attached attachment.tip
  · exact .refl element

theorem revision_refl (layout : Layout ℚ) : layout.Revision layout :=
  revision_of_map rfl rfl (fun _ => (Option.map_id' ..).symm) fun _ element _ => .refl element

theorem revision_markRight (layout : Layout ℚ) (attachment : Option (Attachment ℚ)) :
    layout.Revision (layout.markRight attachment) := by
  cases attachment with
  | none => exact layout.revision_refl
  | some attachment => exact layout.revision_modifyTip attachment (fun _ => rfl) fun _ => rfl

theorem revision_markLeft (layout : Layout ℚ) (attachment : Option (Attachment ℚ)) :
    layout.Revision (layout.markLeft attachment) := by
  cases attachment with
  | none => exact layout.revision_refl
  | some attachment => exact layout.revision_modifyTip attachment (fun _ => rfl) fun _ => rfl

theorem push_thickness (layout : Layout ℚ) (element : Element ℚ) :
    (layout.push element).1.thickness = layout.thickness := by
  unfold push
  simp only
  split
  · rfl
  · split
    · rfl
    · rfl

theorem addLine_thickness (layout : Layout ℚ) (spec : LineSpec ℚ) :
    (layout.addLine spec).1.thickness = layout.thickness := by
  unfold addLine
  split
  · rfl
  · rw [push_thickness, (revision_markLeft _ _).thickness, (revision_markRight _ _).thickness]

theorem addConnector_thickness (layout : Layout ℚ) (spec : ConnectorSpec ℚ) :
    (layout.addConnector spec).1.thickness = layout.thickness := by
  unfold addConnector
  split
  · rfl
  · rw [push_thickness, (revision_markRight _ _).thickness, (revision_markRight _ _).thickness]

theorem revision_center (layout : Layout ℚ) : layout.Revision layout.center :=
  revision_of_map rfl rfl (fun _ => List.getElem?_map ..) fun _ element _ => .shift element _

theorem revision_setLine {handle : Nat} {old new : Line ℚ} (found : layout.line? handle = some old)
    (revision : old.Revision new) : layout.Revision (layout.setLine handle new) := by
  have change : ∀ place, (layout.setLine handle new).elements[place]? =
      layout.elements[place]?.map fun element =>
        if place = handle then .line new else element := by
    intro place
    rw [elements_setLine new (line?_bound found)]
    split
    · rename_i here
      rw [here, line?_eq_some_iff.mp found, Option.map_some]
    · rw [Option.map_id']
  refine revision_of_map rfl rfl change ?_
  intro place element there
  split
  · rename_i here
    rw [here, line?_eq_some_iff.mp found] at there
    obtain rfl := Option.some.inj there
    exact .line revision
  · exact .refl element

end Operations

end Layout

end Waveguide
