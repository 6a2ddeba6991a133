import Mathlib
import Waveguide.Proofs.Additions
import Waveguide.Proofs.Termination
import Waveguide.Proofs.Translation

/-!
How far later operations move what has been placed. Centering moves every element by one offset;
adding an element and settling the conflicts move none. A line that is cut loses its end, and with it
whatever that was attached to; a point that is still attached has moved with the rest.
-/

namespace Waveguide

theorem Point.add_origin (point : Point ℚ) : point.add Point.origin = point :=
  congrArg₂ Point.mk (add_zero _) (add_zero _)

structure Line.Displaced (offset : Point ℚ) (old new : Line ℚ) : Prop where
  property : new.property = old.property
  attached : ∀ tip attachment, ((Element.line new).tip tip).attachment = some attachment →
    ((Element.line old).tip tip).attachment = some attachment ∧
      ((Element.line new).tip tip).position = ((Element.line old).tip tip).position.add offset

structure Connector.Displaced (offset : Point ℚ) (old new : Connector ℚ) : Prop where
  property : new.property = old.property
  elevation : new.elevation = old.elevation
  position : ∀ tip, ((Element.connector new).tip tip).position =
    ((Element.connector old).tip tip).position.add offset
  attachment : ∀ tip, ((Element.connector new).tip tip).attachment =
    ((Element.connector old).tip tip).attachment

inductive Element.Displaced (offset : Point ℚ) : Element ℚ → Element ℚ → Prop
  | line {old new : Line ℚ} : old.Displaced offset new →
      Element.Displaced offset (.line old) (.line new)
  | connector {old new : Connector ℚ} : old.Displaced offset new →
      Element.Displaced offset (.connector old) (.connector new)

namespace Element

variable {offset more : Point ℚ} {old new next : Element ℚ}

theorem displaced_of_tips (property : ∀ line, old = .line line →
      ∃ now, new = .line now ∧ now.property = line.property)
    (elevation : ∀ connector, old = .connector connector →
      ∃ now, new = .connector now ∧ now.property = connector.property ∧
        now.elevation = connector.elevation)
    (position : ∀ tip, (new.tip tip).position = (old.tip tip).position.add offset)
    (attachment : ∀ tip, (new.tip tip).attachment = (old.tip tip).attachment) :
    old.Displaced offset new := by
  cases old with
  | line line =>
      obtain ⟨now, rfl, same⟩ := property line rfl
      refine .line ⟨same, fun tip given attached => ⟨?_, position tip⟩⟩
      exact (attachment tip).symm.trans attached
  | connector connector =>
      obtain ⟨now, rfl, same, level⟩ := elevation connector rfl
      exact .connector ⟨same, level, position, attachment⟩

theorem Displaced.refl (element : Element ℚ) : element.Displaced Point.origin element := by
  refine displaced_of_tips (fun line is => ⟨line, is, rfl⟩)
    (fun connector is => ⟨connector, is, rfl, rfl⟩) (fun tip => ?_) fun _ => rfl
  rw [Point.add_origin]

theorem Displaced.trans (first : old.Displaced offset new) (second : new.Displaced more next) :
    old.Displaced (offset.add more) next := by
  cases first with
  | @line before middle known =>
      cases second with
      | @line _ after further =>
          refine .line ⟨further.property.trans known.property, ?_⟩
          intro tip attachment attached
          obtain ⟨still, moved⟩ := further.attached tip attachment attached
          obtain ⟨was, here⟩ := known.attached tip attachment still
          exact ⟨was, by rw [moved, here, Point.add_add]⟩
  | @connector before middle known =>
      cases second with
      | @connector _ after further =>
          refine .connector ⟨further.property.trans known.property,
            further.elevation.trans known.elevation, ?_, ?_⟩
          · intro tip
            rw [further.position, known.position, Point.add_add]
          · intro tip
            rw [further.attachment, known.attachment]

theorem displaced_shift (element : Element ℚ) (offset : Point ℚ) :
    element.Displaced offset (element.shift offset) := by
  refine displaced_of_tips ?_ ?_ (fun tip => ?_) fun tip => ?_
  · rintro line rfl
    exact ⟨_, rfl, rfl⟩
  · rintro connector rfl
    exact ⟨_, rfl, rfl, rfl⟩
  · rw [shift_tip]
    rfl
  · rw [shift_tip]
    rfl

theorem tip_unmarked (element : Element ℚ) (tip : Tip) :
    element.unmarked.tip tip = (element.tip tip).unmarked := by
  cases element with
  | line placed => cases tip <;> rfl
  | connector placed => cases tip <;> rfl

theorem Marked.tip {named : Side → Tip → Prop} (marked : old.Marked named new) (tip : Tip) :
    (new.tip tip).unmarked = (old.tip tip).unmarked := by
  rw [← tip_unmarked, marked.same, tip_unmarked]

theorem Marked.displaced {named : Side → Tip → Prop} (marked : old.Marked named new) :
    old.Displaced Point.origin new := by
  have same := marked.same
  refine displaced_of_tips ?_ ?_ (fun tip => ?_) fun tip => ?_
  · rintro line rfl
    cases new with
    | line now =>
        have property := congrArg Line.property (Element.line.inj same)
        exact ⟨now, rfl, property⟩
    | connector now => simp [unmarked, modifyTip] at same
  · rintro connector rfl
    cases new with
    | line now => simp [unmarked, modifyTip] at same
    | connector now =>
        have property := congrArg Connector.property (Element.connector.inj same)
        have elevation := congrArg Connector.elevation (Element.connector.inj same)
        exact ⟨now, rfl, property, elevation⟩
  · have position := congrArg Endpoint.position (marked.tip tip)
    rw [Point.add_origin]
    exact position
  · have attachment := congrArg Endpoint.attachment (marked.tip tip)
    exact attachment

end Element

namespace Line

theorem displaced_leftPart (line : Line ℚ) (x : ℚ) :
    line.Displaced Point.origin (line.leftPart x) := by
  refine ⟨rfl, ?_⟩
  intro tip attachment attached
  cases tip with
  | start => exact ⟨attached, (Point.add_origin _).symm⟩
  | finish => contradiction

theorem displaced_rightPart (line : Line ℚ) (x : ℚ) (parent : Nat) :
    line.Displaced Point.origin (line.rightPart x parent) := by
  refine ⟨rfl, ?_⟩
  intro tip attachment attached
  cases tip with
  | start => contradiction
  | finish => exact ⟨attached, (Point.add_origin _).symm⟩

theorem displaced_clearance (line : Line ℚ) (clearance : Clearance ℚ) :
    line.Displaced Point.origin { line with clearance } := by
  refine ⟨rfl, ?_⟩
  intro tip attachment attached
  cases tip with
  | start => exact ⟨attached, (Point.add_origin _).symm⟩
  | finish => exact ⟨attached, (Point.add_origin _).symm⟩

end Line

namespace Layout

def Displaced (offset : Point ℚ) (layout other : Layout ℚ) : Prop :=
  ∀ (place : Nat) (element : Element ℚ), layout.elements[place]? = some element →
    ∃ new : Element ℚ, other.elements[place]? = some new ∧ element.Displaced offset new

namespace Displaced

variable {offset more : Point ℚ} {layout other next : Layout ℚ}

theorem refl (layout : Layout ℚ) : layout.Displaced Point.origin layout :=
  fun _ element found => ⟨element, found, .refl element⟩

theorem trans (first : layout.Displaced offset other) (second : other.Displaced more next) :
    layout.Displaced (offset.add more) next := by
  intro place element found
  obtain ⟨new, placed, moved⟩ := first place element found
  obtain ⟨last, there, further⟩ := second place new placed
  exact ⟨last, there, moved.trans further⟩

theorem still (first : layout.Displaced offset other)
    (second : other.Displaced Point.origin next) : layout.Displaced offset next := by
  have both := first.trans second
  rwa [Point.add_origin] at both

end Displaced

variable {layout : Layout ℚ}

theorem Addition.displaced {element : Element ℚ} {next : Layout ℚ}
    (addition : layout.Addition element next) : layout.Displaced Point.origin next := by
  intro place old found
  obtain ⟨new, placed, marked⟩ := addition.earlier place old found
  exact ⟨new, placed, marked.displaced⟩

theorem displaced_center (layout : Layout ℚ) : ∃ offset, layout.Displaced offset layout.center := by
  obtain ⟨offset, moved⟩ : ∃ offset, layout.center.elements =
      layout.elements.map (·.shift offset) := ⟨_, rfl⟩
  refine ⟨offset, fun place element found => ⟨_, ?_, element.displaced_shift offset⟩⟩
  rw [moved, List.getElem?_map, found, Option.map_some]

theorem displaced_setLine {handle : Nat} {old new : Line ℚ} (found : layout.line? handle = some old)
    (moved : old.Displaced Point.origin new) :
    layout.Displaced Point.origin (layout.setLine handle new) := by
  intro place element there
  rw [elements_setLine new (line?_bound found)]
  split
  · rename_i here
    rw [here, line?_eq_some_iff.mp found] at there
    obtain rfl := Option.some.inj there
    exact ⟨_, rfl, .line moved⟩
  · exact ⟨element, there, .refl element⟩

theorem displaced_append (layout : Layout ℚ) (element : Element ℚ) :
    layout.Displaced Point.origin { layout with elements := layout.elements ++ [element] } := by
  intro place old found
  have bound := (List.getElem?_eq_some_iff.mp found).1
  exact ⟨old, (List.getElem?_append_left bound).trans found, .refl old⟩

theorem displaced_afterCut {handle : Nat} {line : Line ℚ} (found : layout.line? handle = some line)
    (x : ℚ) : layout.Displaced Point.origin
      (layout.afterCut handle (line.leftPart x) (line.rightPart x handle)) :=
  (displaced_setLine found (line.displaced_leftPart x)).still (displaced_append _ _)

theorem displaced_afterSplit {upper lower : Nat} {up low : Line ℚ}
    (step : layout.SplitStep upper lower up low) :
    layout.Displaced Point.origin (layout.afterSplit upper lower up low) := by
  have lowKept : ∀ line, (layout.setLine upper line).line? lower = some low := fun line =>
    (line?_setLine_of_ne line step.different.symm).trans step.lower
  exact (displaced_setLine step.upper (up.displaced_clearance _)).still
    (displaced_setLine (lowKept _) (low.displaced_clearance _))

theorem displaced_settling {cuts : Nat} {state : Layout ℚ} (run : Settling layout cuts state) :
    layout.Displaced Point.origin state := by
  refine SettlingWith.along (motive := fun _ state => layout.Displaced Point.origin state) (.refl _)
    ?_ ?_ run
  · exact fun _ before step _ => before.still (displaced_afterCut step.found _)
  · exact fun _ before step => before.still (displaced_afterSplit step)

end Layout

end Waveguide
