import Mathlib
import Waveguide.Program
import Waveguide.Proofs.Centering
import Waveguide.Proofs.Conservation
import Waveguide.Proofs.Consistency
import Waveguide.Proofs.Separation
import Waveguide.Proofs.Sides

/-!
The bounds of a layout are found before its conflicts are settled. They hold afterwards: a soft
clearance never grows beyond the hard clearance of the line on the other side. Only a line that is
not quite horizontal may give way a little, since what is cut off from it lies at the height of its
end.
-/

namespace Waveguide

def LineProperty.height (property : LineProperty ℚ) : ℚ := 2 * property.reach + property.padding

namespace Layout

def leastHeight (layout : Layout ℚ) : ℚ :=
  (layout.lines.map fun entry => entry.2.property.height).min?.getD 0

/-- How far the parts that are cut off from a line may reach out of the bounds. That is nothing if
the line is horizontal, or if no line is less high than this one rises or falls. -/
def drift (layout : Layout ℚ) (original : Line ℚ) : ℚ :=
  max 0 (|original.start.y - original.finish.y| - layout.leastHeight)

def overhang (layout : Layout ℚ) (original piece : Line ℚ) : ℚ :=
  if piece.parent = none then 0 else layout.drift original

theorem leastHeight_le {layout : Layout ℚ} {handle : Nat} {line : Line ℚ}
    (found : layout.line? handle = some line) : layout.leastHeight ≤ line.property.height := by
  have member : line.property.height ∈ layout.lines.map fun entry => entry.2.property.height :=
    List.mem_map.mpr ⟨(handle, line), mem_lines.mpr found, rfl⟩
  unfold leastHeight
  cases least : (layout.lines.map fun entry => entry.2.property.height).min? with
  | none =>
      rw [List.min?_eq_none_iff.mp least] at member
      exact absurd member List.not_mem_nil
  | some height => exact (List.min?_eq_some_iff.mp least).2 _ member

end Layout

/-- A line whose rectangle, with its soft clearances, lies within bounds that are widened at the
bottom and at the top. -/
structure Line.Within (bounds : Bounds ℚ) (overhang : ℚ) (line : Line ℚ) : Prop where
  left : bounds.low.x ≤ line.minX
  right : line.maxX ≤ bounds.high.x
  bottom : bounds.low.y - overhang ≤ line.y - line.clearance.softDown
  top : line.y + line.clearance.softUp ≤ bounds.high.y + overhang

structure Block.Within (size : Point ℚ) (sideways overhang : ℚ) (block : Block ℚ) : Prop where
  left : -(size.x / 2) ≤ block.left
  right : block.right ≤ size.x / 2 + sideways
  bottom : -(size.y / 2) - overhang ≤ block.bottom
  top : block.top ≤ size.y / 2 + overhang

/-- A piece of a line that lies within bounds: exactly if it is the line itself, and otherwise up to
an overhang, at whichever end of the line its height was taken. -/
structure Line.PieceWithin (bounds : Bounds ℚ) (overhang : ℚ) (original line : Line ℚ) : Prop
    extends original.PieceOf line where
  wholeBottom : line.parent = none → bounds.low.y ≤ line.y - line.clearance.softDown
  wholeTop : line.parent = none → line.y + line.clearance.softUp ≤ bounds.high.y
  bottom : bounds.low.y - overhang ≤
    min original.start.y original.finish.y - line.clearance.softDown
  top : max original.start.y original.finish.y + line.clearance.softUp ≤ bounds.high.y + overhang

namespace Line

variable {bounds : Bounds ℚ} {overhang : ℚ} {original line : Line ℚ}

theorem PieceOf.between (piece : original.PieceOf line) :
    min original.start.y original.finish.y ≤ line.y ∧
      line.y ≤ max original.start.y original.finish.y := by
  rcases piece.y with same | same
  · rw [same]
    exact ⟨min_le_left _ _, le_max_left _ _⟩
  · rw [same]
    exact ⟨min_le_right _ _, le_max_right _ _⟩

namespace PieceWithin

theorem initial (nonneg : 0 ≤ overhang) (encloses : bounds.Encloses line) :
    line.PieceWithin bounds overhang line where
  toPieceOf := .refl line
  wholeBottom _ := encloses.bottom.trans (sub_le_sub_right (min_le_left _ _) _)
  wholeTop _ := (add_le_add_left (le_max_left _ _) _).trans encloses.top
  bottom := by linarith [encloses.bottom]
  top := by linarith [encloses.top]

theorem leftPart (within : original.PieceWithin bounds overhang line) (x : ℚ) :
    original.PieceWithin bounds overhang (line.leftPart x) :=
  { within with toPieceOf := within.toPieceOf.leftPart x }

theorem rightPart (within : original.PieceWithin bounds overhang line) (x : ℚ) (parent : Nat) :
    original.PieceWithin bounds overhang (line.rightPart x parent) :=
  { within with
    toPieceOf := within.toPieceOf.rightPart x parent
    wholeBottom := fun impossible => nomatch impossible
    wholeTop := fun impossible => nomatch impossible }

theorem withSoftDown (within : original.PieceWithin bounds overhang line) {least softDown : ℚ}
    (nonneg : 0 ≤ least) (enough : |original.start.y - original.finish.y| - least ≤ overhang)
    (room : bounds.low.y + least ≤ line.y - softDown) :
    original.PieceWithin bounds overhang (line.withSoftDown softDown) :=
  { within with
    wholeBottom := fun _ => by
      change bounds.low.y ≤ line.y - softDown
      linarith
    bottom := by
      have spread := max_sub_min_eq_abs original.finish.y original.start.y
      change bounds.low.y - overhang ≤ min original.start.y original.finish.y - softDown
      rw [max_comm, min_comm] at spread
      linarith [within.toPieceOf.between.2] }

theorem withSoftUp (within : original.PieceWithin bounds overhang line) {least softUp : ℚ}
    (nonneg : 0 ≤ least) (enough : |original.start.y - original.finish.y| - least ≤ overhang)
    (room : line.y + softUp ≤ bounds.high.y - least) :
    original.PieceWithin bounds overhang (line.withSoftUp softUp) :=
  { within with
    wholeTop := fun _ => by
      change line.y + softUp ≤ bounds.high.y
      linarith
    top := by
      have spread := max_sub_min_eq_abs original.finish.y original.start.y
      change max original.start.y original.finish.y + softUp ≤ bounds.high.y + overhang
      rw [max_comm, min_comm] at spread
      linarith [within.toPieceOf.between.1] }

end PieceWithin

theorem PieceOf.inset (piece : original.PieceOf line) (declared : original.Declared)
    (encloses : bounds.Encloses original) :
    bounds.low.y + (line.property.reach + line.property.padding) ≤ line.y ∧
      line.y ≤ bounds.high.y - (line.property.reach + line.property.padding) := by
  have between := piece.between
  have bottom := encloses.bottom
  have top := encloses.top
  rw [declared.clearance, Clearance.ofProperty_eq] at bottom top
  rw [piece.property]
  exact ⟨by linarith [between.1], by linarith [between.2]⟩

end Line

namespace Layout

theorem leastHeight_nonneg {layout : Layout ℚ} (declared : layout.Declared) :
    0 ≤ layout.leastHeight := by
  unfold leastHeight
  cases least : (layout.lines.map fun entry => entry.2.property.height).min? with
  | none => exact le_rfl
  | some height =>
      obtain ⟨entry, listed, same⟩ := List.mem_map.mp (List.min?_eq_some_iff.mp least).1
      have valid := (declared.line (mem_lines.mp listed)).property
      have reach := valid.reach_nonneg
      have padding := valid.padding
      rw [Option.getD_some, ← same, LineProperty.height]
      linarith

/-- Whatever settling makes of a centered layout stays within the bounds, but for the overhang of
parts that were cut off from slanted lines. -/
theorem SettlingWith.pieceWithin {admits : Line ℚ → ℚ → Prop} {layout state : Layout ℚ} {cuts : Nat}
    (run : SettlingWith admits layout cuts state) (declared : layout.Declared) {bounds : Bounds ℚ}
    (encloses : layout.All bounds.Encloses) :
    ∀ handle line, state.line? handle = some line →
      ∃ original, layout.line? (state.root handle) = some original ∧
        original.PieceWithin bounds (layout.drift original) line := by
  have least := leastHeight_nonneg declared
  refine run.along_roots declared ?_ ?_ ?_
  · exact fun handle line found => .initial (le_max_left _ _) (encloses handle line found)
  · exact fun parent _ within => ⟨within.leftPart _, within.rightPart _ parent⟩
  · intro a b first second up low firstFound secondFound crowded upSound lowSound upWithin lowWithin
    -- The upper line's share ends above the hard clearance of the lower one, whose remaining height
    -- lies within the bounds below that; and the other way round.
    have enough := le_shares crowded.apart
    have sum := shares_sum up.clearance low.clearance (up.y - low.y)
    have below := lowWithin.toPieceOf.inset (declared.line secondFound)
      (encloses b second secondFound)
    have above := upWithin.toPieceOf.inset (declared.line firstFound)
      (encloses a first firstFound)
    have upHeight := leastHeight_le firstFound
    have lowHeight := leastHeight_le secondFound
    rw [LineProperty.height, ← upWithin.property] at upHeight
    rw [LineProperty.height, ← lowWithin.property] at lowHeight
    rw [upSound.down, lowSound.up] at enough
    constructor
    · refine upWithin.withSoftDown least (le_max_right _ _) ?_
      linarith [below.1, enough.2]
    · refine lowWithin.withSoftUp least (le_max_right _ _) ?_
      linarith [above.2, enough.1]

end Layout

namespace Line

variable {line : Line ℚ} {block : Block ℚ}

theorem blocks_reach (sound : line.Sound) (member : block ∈ line.blocks) :
    line.minX ≤ block.left ∧ block.right ≤ line.maxX + |line.start.y - line.finish.y| ∧
      line.y - line.clearance.softDown ≤ block.bottom ∧
      block.top ≤ line.y + line.clearance.softUp := by
  obtain ⟨segment, drawn, layer⟩ := mem_blocks.mp member
  obtain ⟨left, right, bottom, top⟩ := layers_extent sound layer
  obtain ⟨started, ended⟩ := segments_reach sound drawn
  rw [left, right]
  exact ⟨started, by linarith [line.length_le], bottom, top⟩

end Line

namespace Layout

structure Holds (layout state : Layout ℚ) : Prop where
  bounds : state.bounds = layout.bounds
  lines : ∀ handle line, state.line? handle = some line → ∃ original,
    layout.line? (state.root handle) = some original ∧
    |original.start.y - original.finish.y| ≤ Scalar.tolerance ∧
    line.Within layout.bounds (layout.overhang original line) ∧
    ∀ scene : Scene ℚ, scene.layout = state → ∀ block ∈ line.blocks,
      block.Within (Program.cellSize scene) |line.start.y - line.finish.y|
        (layout.overhang original line - scene.overshot)

theorem within_of_pieceWithin {layout : Layout ℚ} {bounds : Bounds ℚ} {original outer line : Line ℚ}
    (piece : original.PieceWithin bounds (layout.drift original) line) (inside : line.Inside outer)
    (encloses : bounds.Encloses outer) : line.Within bounds (layout.overhang original line) where
  left := encloses.left.trans inside.left
  right := inside.right.trans encloses.right
  bottom := by
    unfold overhang
    split
    · rename_i whole
      linarith [piece.wholeBottom whole]
    · linarith [piece.bottom, piece.toPieceOf.between.1]
  top := by
    unfold overhang
    split
    · rename_i whole
      linarith [piece.wholeTop whole]
    · linarith [piece.top, piece.toPieceOf.between.2]

theorem cellSize_of_line {scene : Scene ℚ} {handle : Nat} {line : Line ℚ}
    (found : scene.layout.line? handle = some line) :
    Program.cellSize scene =
      ⟨scene.layout.bounds.width, scene.layout.bounds.height + 2 * scene.overshot⟩ := by
  have two : (2.0 : ℚ) = 2 := by norm_num
  have present : scene.layout.elements.isEmpty = false := by
    rw [List.isEmpty_eq_false_iff]
    rintro none
    have bound := line?_bound found
    rw [none] at bound
    exact absurd bound (Nat.not_lt_zero _)
  simp only [Program.cellSize, present, two, Bool.false_eq_true, if_false]

/-- What is settled after it has been centered stays within the bounds that were found before, and
within the cell, up to what the slant of lines makes of it. -/
theorem settling_stays_within {layout : Layout ℚ} (built : layout.Built) :
    (∀ cuts state, Settling layout.center cuts state → layout.center.Holds state) ∧
      ∃ cuts, Settling layout.center cuts layout.center.settle.1 := by
  have declared := (Built.center built).declared
  obtain ⟨total, reached, _⟩ := (settle_ended declared.allSound).outcome
  have encloses : layout.center.All layout.center.bounds.Encloses :=
    fun _ _ found => center_encloses found
  have flat : ∀ (original : Line ℚ) (handle : Nat), layout.center.line? handle = some original →
      |original.start.y - original.finish.y| ≤ Scalar.tolerance := by
    intro original handle found
    obtain ⟨thickness, centered⟩ := (Built.center built).reached
    exact (centered.consistent.line found).flat
  refine ⟨fun cuts state run => ⟨run.untouched.bounds, ?_⟩, total, reached⟩
  intro handle line found
  obtain ⟨original, known, piece⟩ := run.pieceWithin declared encloses handle line found
  obtain ⟨outer, outerKnown, inside⟩ := run.inside_root declared handle line found
  have within := within_of_pieceWithin piece inside (encloses _ outer outerKnown)
  refine ⟨original, known, flat original _ known, within, ?_⟩
  rintro scene rfl block member
  obtain ⟨left, right, bottom, top⟩ :=
    Line.blocks_reach (run.sound declared.allSound handle line found) member
  obtain ⟨west, east, south, north⟩ := layout.center_symmetric
  rw [cellSize_of_line found, run.untouched.bounds]
  exact {
    left := by linarith [within.left]
    right := by linarith [within.right]
    bottom := by linarith [within.bottom]
    top := by linarith [within.top] }

def thinLine (padding left right startHeight finishHeight : ℚ) : LineSpec ℚ :=
  .between
    { sampleGuide with width := 0, padding := padding * Scalar.tolerance, grooves.depth := 0 }
    ⟨left, startHeight * Scalar.tolerance⟩ ⟨right, finishHeight * Scalar.tolerance⟩

/-- A thin line that falls by almost the tolerance, between one that is close below it and two above
it. One of these covers its right half only. -/
def slantedLayout : Layout ℚ :=
  ofLines [
    thinLine (3 / 5) 0 20 (-2 / 5) (-2 / 5),
    thinLine (7 / 2) 0 20 (13 / 5) (13 / 5),
    thinLine 0 0 20 0 (-19 / 20),
    thinLine (2021 / 20) 10 20 100 100]

theorem slantedLayout_stays_within :
    slantedLayout.Built ∧ slantedLayout.center.settle.2.toOption = some 2 ∧
      (∀ cuts state, Settling slantedLayout.center cuts state →
        slantedLayout.center.Holds state) ∧
      ∃ cuts, Settling slantedLayout.center cuts slantedLayout.center.settle.1 :=
  have built : slantedLayout.Built := built_ofLines _
  ⟨built, by decide +kernel, settling_stays_within built⟩

/-- The part that is cut off from the falling line keeps the clearance its start was given, below
the lower end. -/
theorem slantedLayout_protrudes :
    slantedLayout.Built ∧
      ¬ ∀ cuts state, Settling slantedLayout.center cuts state →
        ∀ handle line, state.line? handle = some line →
          line.Within slantedLayout.center.bounds 0 := by
  have built : slantedLayout.Built := built_ofLines _
  refine ⟨built, fun all => ?_⟩
  have protrudes : (slantedLayout.center.settle.1.line? 5).all (fun line =>
      line.y - line.clearance.softDown < slantedLayout.center.bounds.low.y) = true ∧
      (slantedLayout.center.settle.1.line? 5).isSome = true := by
    decide +kernel
  obtain ⟨line, found⟩ := Option.isSome_iff_exists.mp protrudes.2
  obtain ⟨cuts, run, _⟩ := (settle_ended (Built.center built).declared.allSound).outcome
  have below := protrudes.1
  rw [found, Option.all_some, decide_eq_true_eq] at below
  linarith [(all cuts _ run 5 line found).bottom]

end Layout

end Waveguide
