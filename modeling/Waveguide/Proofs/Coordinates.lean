import Mathlib
import Waveguide.Program
import Waveguide.Proofs.Bare
import Waveguide.Proofs.Consistency

/-!
References to other elements are only a way to give coordinates. A description whose lines are given
by the coordinates that were found for them is built into the same scene, but for the attachments of
lines and the marks, which nothing that follows asks for.
-/

namespace Waveguide

variable {K : Type}

def PointSpec.at (point : Point K) (skip : Option K) : PointSpec K :=
  ⟨some point.x, some point.y, none, none, .start, skip, none, none⟩

section Specs

variable [Scalar K]

namespace Layout

def plainLine (layout : Layout K) (spec : LineSpec K) : LineSpec K :=
  match layout.prepareLine spec with
  | .ok line =>
      { spec with
        start := .at line.start.position spec.start.skip
        finish := .at line.finish.position none }
  | .error _ => spec

def plainSpec (layout : Layout K) : ElementSpec K → ElementSpec K
  | .line spec => .line (layout.plainLine spec)
  | .connector spec => .connector spec

def plainSpecs (layout : Layout K) : List (ElementSpec K) → List (ElementSpec K)
  | [] => []
  | spec :: specs => layout.plainSpec spec :: (layout.add spec).1.plainSpecs specs

end Layout

def Description.inCoordinates (description : Description K) : Description K :=
  { description with
    geometry := { description.geometry with
      elements := (Layout.empty description.geometry.thickness).plainSpecs
        description.geometry.elements } }

end Specs

/-- A scene without marks and the attachments of lines. -/
def Scene.bare (scene : Scene K) : Scene K := { scene with layout := scene.layout.bare }

namespace Layout

section Additions

variable [Scalar K] {layout other : Layout K}

theorem lineBetween_plain {spec : LineSpec K} {start finish : Resolved K} {line : Line K}
    (placed : layout.lineBetween spec start finish = .ok line) :
    layout.lineBetween
        { spec with
          start := .at line.start.position spec.start.skip
          finish := .at line.finish.position none }
        ⟨line.start.position, none⟩ ⟨line.finish.position, none⟩ = .ok line.bare := by
  unfold lineBetween at placed
  split at placed
  · contradiction
  · rename_i ordered
    split at placed
    · contradiction
    · rename_i flat
      obtain rfl := Except.ok.inj placed
      exact (if_neg ordered).trans (if_neg flat)

theorem prepareLine_plain {spec : LineSpec K} {line : Line K}
    (prepared : layout.prepareLine spec = .ok line) (same : other.bare = layout.bare) :
    other.prepareLine (layout.plainLine spec) = .ok line.bare := by
  rw [← other.bare_prepareLine, same, layout.bare_prepareLine, plainLine, prepared]
  rw [prepareLine_eq] at prepared
  simp only [bind_eq_ok] at prepared
  obtain ⟨_, free, _, valid, start, _, finish, _, placed⟩ := prepared
  change (layout.checkId spec.id >>= fun _ => spec.property.validate >>= fun _ => _) = _
  rw [free, valid]
  exact lineBetween_plain placed

theorem bare_push_congr (same : other.bare = layout.bare) {first second : Element K}
    (alike : second.bare = first.bare) :
    (other.push second).1.bare = (layout.push first).1.bare ∧
      (other.push second).2 = (layout.push first).2 := by
  have pushed : ((other.push second).1.bare, (other.push second).2) =
      ((layout.push first).1.bare, (layout.push first).2) := by
    rw [← bare_push, ← bare_push, same, alike]
  exact Prod.mk.inj pushed

theorem addLine_plain (same : other.bare = layout.bare) {spec : LineSpec K} {handle : Nat}
    (added : (layout.addLine spec).2 = .ok handle) :
    (other.addLine (layout.plainLine spec)).1.bare = (layout.addLine spec).1.bare ∧
      (other.addLine (layout.plainLine spec)).2 = .ok handle := by
  cases prepared : layout.prepareLine spec with
  | error failure => simp [addLine, prepared] at added
  | ok line =>
      have plain := prepareLine_plain prepared same
      simp only [addLine, prepared, plain] at added ⊢
      have marked : other.bare = ((layout.markRight line.start.attachment).markLeft
          line.finish.attachment).bare := by
        rw [bare_markLeft, bare_markRight, same]
      have alike : (Element.line line.bare).bare = (Element.line line).bare := rfl
      rw [← added]
      exact bare_push_congr marked alike

theorem addConnector_same (same : other.bare = layout.bare) (spec : ConnectorSpec K) :
    (other.addConnector spec).1.bare = (layout.addConnector spec).1.bare ∧
      (other.addConnector spec).2 = (layout.addConnector spec).2 := by
  have prepared : other.prepareConnector spec = layout.prepareConnector spec := by
    rw [← other.bare_prepareConnector, same, layout.bare_prepareConnector]
  unfold addConnector
  rw [prepared]
  cases layout.prepareConnector spec with
  | error failure => exact ⟨same, rfl⟩
  | ok connector =>
      refine bare_push_congr ?_ rfl
      simp only [bare_markRight, same]

theorem add_plain (same : other.bare = layout.bare) {spec : ElementSpec K} {handle : Nat}
    (added : (layout.add spec).2 = .ok handle) :
    (other.add (layout.plainSpec spec)).1.bare = (layout.add spec).1.bare ∧
      (other.add (layout.plainSpec spec)).2 = .ok handle := by
  cases spec with
  | line spec => exact addLine_plain same added
  | connector spec =>
      have both := addConnector_same same spec
      exact ⟨both.1, both.2.trans added⟩

end Additions

theorem addAll_plain [Numeral K] {layout other result : Layout K} (same : other.bare = layout.bare)
    {specs : List (ElementSpec K)} (done : layout.addAll specs = .ok result) :
    ∃ plain, other.addAll (layout.plainSpecs specs) = .ok plain ∧ plain.bare = result.bare := by
  induction specs generalizing layout other with
  | nil =>
      obtain rfl := Except.ok.inj done
      exact ⟨other, rfl, same⟩
  | cons spec specs ih =>
      rw [addAll] at done
      split at done
      · rename_i next handle stepped
        have added : (layout.add spec).2 = .ok handle := congrArg Prod.snd stepped
        obtain ⟨agree, admitted⟩ := add_plain same added
        rw [stepped] at agree
        obtain ⟨plain, placed, alike⟩ := ih agree done
        refine ⟨plain, ?_, alike⟩
        have follow : other.add (layout.plainSpec spec) =
            ((other.add (layout.plainSpec spec)).1, .ok handle) := Prod.ext rfl admitted
        have left : (layout.add spec).1 = next := congrArg Prod.fst stepped
        rw [plainSpecs, addAll, follow, left]
        exact placed
      · contradiction

theorem plainSpecs_isEmpty [Scalar K] (layout : Layout K) (specs : List (ElementSpec K)) :
    (layout.plainSpecs specs).isEmpty = specs.isEmpty := by
  cases specs with
  | nil => rfl
  | cons spec specs => rfl

theorem bare_settle_congr [Scalar K] {layout other : Layout K} (same : other.bare = layout.bare) :
    other.settle.1.bare = layout.settle.1.bare ∧ other.settle.2 = layout.settle.2 := by
  have settled : (other.settle.1.bare, other.settle.2) =
      (layout.settle.1.bare, layout.settle.2) := by
    rw [← bare_settle, ← bare_settle, same]
  exact Prod.mk.inj settled

end Layout

variable [Numeral K]

namespace Scene

theorem bare_placeSource (layout : Layout K) :
    placeSource layout.bare = placeSource layout :=
  Guise.bare.placeSource layout

theorem bare_placeFlux (layout : Layout K) : placeFlux layout.bare = placeFlux layout :=
  Guise.bare.placeFlux layout

theorem bare_placeTransient (layout : Layout K) (interval : K) :
    placeTransient layout.bare interval = placeTransient layout interval :=
  Guise.bare.placeTransient layout interval

theorem place_plain {geometry : GeometrySpec K} {placed : Layout K}
    (done : place geometry = .ok placed) :
    ∃ plain, place { geometry with
        elements := (Layout.empty geometry.thickness).plainSpecs geometry.elements } = .ok plain ∧
      plain.bare = placed.bare := by
  simp only [place, bind_eq_ok] at done
  obtain ⟨layout, added, result⟩ := done
  obtain rfl := Except.ok.inj result
  obtain ⟨plain, plainAdded, same⟩ := Layout.addAll_plain rfl added
  refine ⟨plain.center, ?_, ?_⟩
  · simp only [place, bind_eq_ok]
    exact ⟨plain, plainAdded, rfl⟩
  · rw [← Layout.bare_center, ← Layout.bare_center, same]

theorem build_plain {description : Description K} {settings : Settings K} {scene : Scene K}
    (built : build description settings = .ok scene) :
    ∃ layout, layout.bare = scene.layout.bare ∧
      build description.inCoordinates settings = .ok { scene with layout } := by
  have listed : Diagnostics.empty.checkListed .noElements "elements"
      description.inCoordinates.geometry.elements =
        Diagnostics.empty.checkListed .noElements "elements" description.geometry.elements := by
    simp only [Diagnostics.checkListed, Description.inCoordinates, Layout.plainSpecs_isEmpty]
  simp only [build, bind_eq_ok] at built
  obtain ⟨_, checked, declared, placed, cuts, settled, ⟨sources, _⟩, sourcesPlaced, ⟨fluxes, _⟩,
    fluxesPlaced, ⟨transients, _⟩, transientsPlaced, result⟩ := built
  obtain rfl := Except.ok.inj result
  obtain ⟨plain, plainPlaced, same⟩ := place_plain placed
  obtain ⟨alike, counted⟩ := Layout.bare_settle_congr same
  refine ⟨plain.settle.1, alike, ?_⟩
  rw [← bare_placeSource, ← alike, bare_placeSource] at sourcesPlaced
  rw [← bare_placeFlux, ← alike, bare_placeFlux] at fluxesPlaced
  rw [← bare_placeTransient, ← alike, bare_placeTransient] at transientsPlaced
  simp only [build, bind_eq_ok, listed]
  exact ⟨_, checked, plain, plainPlaced, cuts, counted.trans settled, (sources, _), sourcesPlaced,
    (fluxes, _), fluxesPlaced, (transients, _), transientsPlaced, rfl⟩

end Scene

namespace Program

variable (renderer : Renderer K)

theorem bare_elementBlocks (layout : Layout K) (element : Element K) :
    elementBlocks layout.bare element.bare = elementBlocks layout element :=
  Guise.bare.elementBlocks layout element

theorem bare_element (layout : Layout K) (placed : Element K) :
    element renderer layout.bare placed.bare = element renderer layout placed := by
  have comment : placed.bare.comment = placed.comment := by
    cases placed <;> rfl
  unfold element
  rw [comment, bare_elementBlocks]

theorem bare_geometry (scene : Scene K) :
    geometry renderer scene.bare = geometry renderer scene := by
  have drawn : ∀ elements : List (Element K),
      (elements.map Element.bare).forM (element renderer scene.layout.bare) =
        elements.forM (element renderer scene.layout) := by
    intro elements
    induction elements with
    | nil => rfl
    | cons placed elements ih => rw [List.map_cons, List.forM, List.forM, bare_element, ih]
  have elements : scene.bare.layout.elements = scene.layout.elements.map Element.bare := rfl
  unfold geometry
  rw [elements, ← drawn]
  rfl

theorem bare_cell (scene : Scene K) : cell renderer scene.bare = cell renderer scene := by
  have size : cellSize scene.bare = cellSize scene := by
    simp only [cellSize, Scene.bare, Layout.bare, Layout.mapElements, List.isEmpty_map]
  unfold cell
  rw [size]
  rfl

theorem bare_text (settings : Settings K) (time : String) (scene : Scene K) :
    text renderer settings time scene.bare = text renderer settings time scene := by
  have written : write renderer settings time scene.bare =
      write renderer settings time scene := by
    unfold write
    rw [bare_geometry, bare_cell]
    rfl
  unfold text
  rw [written]

end Program

namespace Scene

/-- A description that is built is built again from the coordinates that were found, into the same
scene but for marks and the attachments of lines, and written as the same program. -/
theorem build_in_coordinates {description : Description K} {settings : Settings K}
    {scene : Scene K} (built : build description settings = .ok scene) :
    ∃ plain, build description.inCoordinates settings = .ok plain ∧ plain.bare = scene.bare ∧
      ∀ renderer time,
        Program.text renderer settings time plain = Program.text renderer settings time scene ∧
        Program.ofDescription description.inCoordinates renderer settings time =
          Program.ofDescription description renderer settings time := by
  obtain ⟨layout, alike, again⟩ := build_plain built
  have same : ({ scene with layout } : Scene K).bare = scene.bare := by
    simp only [bare, alike]
  have text : ∀ renderer time, Program.text renderer settings time { scene with layout } =
      Program.text renderer settings time scene := by
    intro renderer time
    rw [← Program.bare_text, same, Program.bare_text]
  refine ⟨_, again, same, fun renderer time => ⟨text renderer time, ?_⟩⟩
  simp only [Program.ofDescription, built, again]
  change (Program.text renderer settings time { scene with layout } >>= fun program => _) =
    Program.text renderer settings time scene >>= fun program => _
  rw [text]
  rfl

/-- Lines that overlap, given by coordinates, by reference to another line and to their own start,
by an attachment to a connector and by periods. -/
def relatedLines : Description ℚ :=
  let beside (id : String) (x y : ℚ) : PointSpec ℚ :=
    ⟨some x, some y, some id, none, .start, none, none, none⟩
  let periods : PointSpec ℚ := ⟨none, none, none, none, .start, none, some 3, none⟩
  let first := Layout.namedLine "a" ⟨0, 0⟩ ⟨30, 0⟩
  { overlappedEnd with
    geometry :=
      { elements := [
          .line first,
          .line { first with id := some "b", start := beside "a" 10 7, finish := beside "b" 40 0 },
          .connector ⟨some "c", none, Layout.tipOf "a" .finish, Layout.tipOf "b" .finish,
            ⟨2, .dielectric 1⟩⟩,
          .line { first with
            id := some "d", start := Layout.tipOf "c" .start, finish := periods }]
        overshot := 2
        thickness := none } }

theorem relatedLines_in_coordinates :
    ∃ scene, build relatedLines .default = .ok scene ∧ scene.cuts = 4 ∧
      ∃ plain, build relatedLines.inCoordinates .default = .ok plain ∧ plain.bare = scene.bare ∧
        ∀ renderer time,
          Program.text renderer .default time plain = Program.text renderer .default time scene ∧
          Program.ofDescription relatedLines.inCoordinates renderer .default time =
            Program.ofDescription relatedLines renderer .default time := by
  have cuts : (build relatedLines .default).toOption.map Scene.cuts = some 4 := by decide +kernel
  cases built : build relatedLines .default with
  | error failure =>
      rw [built] at cuts
      contradiction
  | ok scene =>
      rw [built] at cuts
      exact ⟨scene, rfl, Option.some.inj cuts, build_in_coordinates built⟩

end Scene

end Waveguide
