import Mathlib
import Waveguide.Proofs.Elements

/-!
The bounds of a layout: they enclose all lines with their soft clearances, move with the lines, and
have the origin as their center once the layout is centered.
-/

namespace Waveguide

theorem Point.add_add (point first second : Point ℚ) :
    (point.add first).add second = point.add (first.add second) :=
  congrArg₂ Point.mk (add_assoc _ _ _) (add_assoc _ _ _)

def Line.moved (offset : Point ℚ) (line : Line ℚ) : Line ℚ :=
  { line with start := line.start.shift offset, finish := line.finish.shift offset }

structure Bounds.Encloses (bounds : Bounds ℚ) (line : Line ℚ) : Prop where
  left : bounds.low.x ≤ line.minX
  right : line.maxX ≤ bounds.high.x
  bottom : bounds.low.y ≤ min line.start.y line.finish.y - line.clearance.softDown
  top : max line.start.y line.finish.y + line.clearance.softUp ≤ bounds.high.y

namespace Layout

section Moved

variable (offset : Point ℚ)

theorem cover_shift (bounds : Bounds ℚ) (low high : Point ℚ) :
    (bounds.shift offset).cover (low.add offset) (high.add offset) =
      (bounds.cover low high).shift offset := by
  simp only [Bounds.cover, Bounds.shift, Point.lower, Point.upper, Point.add,
    add_le_add_iff_right, ← apply_ite (· + offset.x), ← apply_ite (· + offset.y)]

theorem bounds_shift_center (bounds : Bounds ℚ) :
    (bounds.shift offset).center = bounds.center.add offset := by
  have half : (0.5 : ℚ) = 1 / 2 := by norm_num
  simp only [Bounds.center, Bounds.shift, Point.add, half, Point.mk.injEq]
  exact ⟨by ring, by ring⟩

theorem includeLine_moved (bounds : Bounds ℚ) (line : Line ℚ) :
    includeLine (bounds.shift offset) (line.moved offset) =
      (includeLine bounds line).shift offset := by
  have left : (line.moved offset).minX = line.minX + offset.x := by
    simp only [Line.minX_eq]
    exact min_add_add_right _ _ _
  have right : (line.moved offset).maxX = line.maxX + offset.x := by
    simp only [Line.maxX_eq]
    exact max_add_add_right _ _ _
  have low : min (line.start.y + offset.y) (line.finish.y + offset.y) - line.clearance.softDown =
      min line.start.y line.finish.y - line.clearance.softDown + offset.y := by
    rw [min_add_add_right, add_sub_right_comm]
  have high : max (line.start.y + offset.y) (line.finish.y + offset.y) + line.clearance.softUp =
      max line.start.y line.finish.y + line.clearance.softUp + offset.y := by
    rw [max_add_add_right, add_right_comm]
  rw [includeLine, includeLine, ← cover_shift, left, right]
  simp only [Scalar.minimum_eq, Scalar.maximum_eq]
  exact congrArg₂ (bounds.shift offset).cover (congrArg (Point.mk _) low)
    (congrArg (Point.mk _) high)

theorem boundsOf_moved {lines : List (Line ℚ)} (present : lines ≠ []) :
    boundsOf (lines.map (Line.moved offset)) = (boundsOf lines).shift offset := by
  cases lines with
  | nil => contradiction
  | cons first others =>
      have grown : ∀ (lines : List (Line ℚ)) (bounds : Bounds ℚ),
          (lines.map (Line.moved offset)).foldl includeLine (bounds.shift offset) =
            (lines.foldl includeLine bounds).shift offset := by
        intro lines
        induction lines with
        | nil => exact fun _ => rfl
        | cons line lines ih =>
            intro bounds
            rw [List.map_cons, List.foldl_cons, List.foldl_cons, includeLine_moved, ih]
      exact grown (first :: others) ⟨first.start.position, first.start.position⟩

theorem lines_shift (elements : List (Element ℚ)) :
    (elements.map (·.shift offset)).filterMap Element.asLine? =
      (elements.filterMap Element.asLine?).map (Line.moved offset) := by
  rw [List.filterMap_map, List.map_filterMap]
  congr
  funext element
  cases element <;> rfl

end Moved

section Enclosed

theorem cover_eq (bounds : Bounds ℚ) (low high : Point ℚ) :
    bounds.cover low high =
      ⟨⟨min bounds.low.x low.x, min bounds.low.y low.y⟩,
        ⟨max bounds.high.x high.x, max bounds.high.y high.y⟩⟩ := by
  simp only [Bounds.cover, Point.lower, Point.upper, min_def, max_comm bounds.high.x,
    max_comm bounds.high.y, max_def]

theorem includeLine_eq (bounds : Bounds ℚ) (line : Line ℚ) :
    includeLine bounds line =
      ⟨⟨min bounds.low.x line.minX,
          min bounds.low.y (min line.start.y line.finish.y - line.clearance.softDown)⟩,
        ⟨max bounds.high.x line.maxX,
          max bounds.high.y (max line.start.y line.finish.y + line.clearance.softUp)⟩⟩ := by
  simp only [includeLine, cover_eq, Scalar.minimum_eq, Scalar.maximum_eq]

theorem includeLine_encloses (bounds : Bounds ℚ) (line : Line ℚ) :
    (includeLine bounds line).Encloses line := by
  rw [includeLine_eq]
  exact ⟨min_le_right _ _, le_max_right _ _, min_le_right _ _, le_max_right _ _⟩

theorem includeLine_keeps {bounds : Bounds ℚ} {other : Line ℚ} (encloses : bounds.Encloses other)
    (line : Line ℚ) : (includeLine bounds line).Encloses other := by
  rw [includeLine_eq]
  exact {
    left := (min_le_left _ _).trans encloses.left
    right := encloses.right.trans (le_max_left _ _)
    bottom := (min_le_left _ _).trans encloses.bottom
    top := encloses.top.trans (le_max_left _ _) }

theorem boundsOf_encloses {lines : List (Line ℚ)} {line : Line ℚ} (member : line ∈ lines) :
    (boundsOf lines).Encloses line := by
  have kept : ∀ (lines : List (Line ℚ)) (bounds : Bounds ℚ), bounds.Encloses line →
      (lines.foldl includeLine bounds).Encloses line := by
    intro lines
    induction lines with
    | nil => exact fun _ encloses => encloses
    | cons other lines ih => exact fun _ encloses => ih _ (includeLine_keeps encloses other)
  have included : ∀ (lines : List (Line ℚ)) (bounds : Bounds ℚ), line ∈ lines →
      (lines.foldl includeLine bounds).Encloses line := by
    intro lines
    induction lines with
    | nil => exact fun _ impossible => absurd impossible List.not_mem_nil
    | cons other lines ih =>
        intro bounds member
        rcases List.mem_cons.mp member with rfl | later
        · exact kept lines _ (includeLine_encloses bounds line)
        · exact ih _ later
  cases lines with
  | nil => exact absurd member List.not_mem_nil
  | cons first others => exact included (first :: others) _ member

theorem center_offset (layout : Layout ℚ) :
    ∃ offset, layout.center.elements = layout.elements.map (·.shift offset) ∧
      layout.center.bounds =
        (boundsOf (layout.elements.filterMap Element.asLine?)).shift offset :=
  ⟨_, rfl, rfl⟩

theorem center_encloses {layout : Layout ℚ} {handle : Nat} {line : Line ℚ}
    (found : layout.center.line? handle = some line) : layout.center.bounds.Encloses line := by
  obtain ⟨offset, elements, bounds⟩ := layout.center_offset
  have member : line ∈ layout.center.elements.filterMap Element.asLine? :=
    List.mem_filterMap.mpr ⟨_, List.mem_of_getElem? (line?_eq_some_iff.mp found), rfl⟩
  have present : layout.elements.filterMap Element.asLine? ≠ [] := by
    rintro none
    rw [elements, lines_shift, none] at member
    exact List.not_mem_nil member
  rw [bounds, ← boundsOf_moved offset present, ← lines_shift, ← elements]
  exact boundsOf_encloses member

theorem center_symmetric (layout : Layout ℚ) :
    layout.center.bounds.low.x = -(layout.center.bounds.width / 2) ∧
      layout.center.bounds.high.x = layout.center.bounds.width / 2 ∧
      layout.center.bounds.low.y = -(layout.center.bounds.height / 2) ∧
      layout.center.bounds.high.y = layout.center.bounds.height / 2 := by
  have half : (0.5 : ℚ) = 1 / 2 := by norm_num
  simp only [center, Bounds.shift, Bounds.center, Bounds.width, Bounds.height, Point.add, half]
  exact ⟨by ring, by ring, by ring, by ring⟩

end Enclosed

end Layout

end Waveguide
