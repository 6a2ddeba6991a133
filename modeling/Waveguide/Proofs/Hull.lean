import Mathlib
import Waveguide.Proofs.Centering
import Waveguide.Proofs.Consistency
import Waveguide.Proofs.Translation

/-!
Centering as a whole. The bounds it finds are the least ones around all lines with their soft
clearances, it moves every point by one offset, which the lines alone decide, and it has nothing to
do a second time.
-/

namespace Waveguide

/-- Bounds that enclose lines with their soft clearances and are no wider than the lines on any
side. -/
structure Bounds.Hull (bounds : Bounds ℚ) (lines : List (Line ℚ)) : Prop where
  encloses : ∀ line ∈ lines, bounds.Encloses line
  left : ∃ line ∈ lines, line.minX = bounds.low.x
  right : ∃ line ∈ lines, line.maxX = bounds.high.x
  bottom : ∃ line ∈ lines,
    min line.start.y line.finish.y - line.clearance.softDown = bounds.low.y
  top : ∃ line ∈ lines, max line.start.y line.finish.y + line.clearance.softUp = bounds.high.y

namespace Layout

/-- A layout whose points have all been moved by one offset, and that is the same in all else but
its bounds. -/
structure Rigid (offset : Point ℚ) (layout other : Layout ℚ) : Prop where
  count : other.elements.length = layout.elements.length
  lines : ∀ place line, layout.line? place = some line →
    other.line? place = some (line.moved offset)
  connectors : ∀ place connector, layout.connector? place = some connector →
    other.connector? place = some (connector.moved offset)
  index : other.index = layout.index
  thickness : other.thickness = layout.thickness

section Bounds

theorem attained_or {lines : List (Line ℚ)} {side : Line ℚ → ℚ} {limit result : ℚ} {line : Line ℚ}
    (attained : ∃ other ∈ lines, side other = limit) (either : result = limit ∨ result = side line) :
    ∃ other ∈ lines ++ [line], side other = result := by
  rcases either with kept | new
  · obtain ⟨other, member, reaches⟩ := attained
    exact ⟨other, List.mem_append_left _ member, reaches.trans kept.symm⟩
  · exact ⟨line, List.mem_append_right _ List.mem_cons_self, new.symm⟩

theorem includeLine_hull {bounds : Bounds ℚ} {lines : List (Line ℚ)} (hull : bounds.Hull lines)
    (line : Line ℚ) : (includeLine bounds line).Hull (lines ++ [line]) where
  encloses := by
    intro other member
    rcases List.mem_append.mp member with old | new
    · exact includeLine_keeps (hull.encloses other old) line
    · rw [List.mem_singleton.mp new]
      exact includeLine_encloses bounds line
  left := by
    rw [includeLine_eq]
    exact attained_or hull.left (min_choice _ _)
  right := by
    rw [includeLine_eq]
    exact attained_or hull.right (max_choice _ _)
  bottom := by
    rw [includeLine_eq]
    exact attained_or hull.bottom (min_choice _ _)
  top := by
    rw [includeLine_eq]
    exact attained_or hull.top (max_choice _ _)

theorem includeLine_start {line : Line ℚ} (up : 0 ≤ line.clearance.softUp)
    (down : 0 ≤ line.clearance.softDown) :
    (includeLine ⟨line.start.position, line.start.position⟩ line).Hull [line] where
  encloses := by
    intro other member
    rw [List.mem_singleton.mp member]
    exact includeLine_encloses _ line
  left := by
    refine ⟨line, List.mem_cons_self, ?_⟩
    rw [includeLine_eq, Line.minX_eq]
    exact (min_eq_right (min_le_left _ _)).symm
  right := by
    refine ⟨line, List.mem_cons_self, ?_⟩
    rw [includeLine_eq, Line.maxX_eq]
    exact (max_eq_right (le_max_left _ _)).symm
  bottom := by
    refine ⟨line, List.mem_cons_self, ?_⟩
    have below : min line.start.y line.finish.y - line.clearance.softDown ≤ line.start.y :=
      (sub_le_self _ down).trans (min_le_left _ _)
    rw [includeLine_eq]
    exact (min_eq_right below).symm
  top := by
    refine ⟨line, List.mem_cons_self, ?_⟩
    have above : line.start.y ≤ max line.start.y line.finish.y + line.clearance.softUp :=
      (le_max_left _ _).trans (le_add_of_nonneg_right up)
    rw [includeLine_eq]
    exact (max_eq_right above).symm

theorem foldl_includeLine_hull (others : List (Line ℚ)) {bounds : Bounds ℚ}
    {lines : List (Line ℚ)} (hull : bounds.Hull lines) :
    (others.foldl includeLine bounds).Hull (lines ++ others) := by
  induction others generalizing bounds lines with
  | nil =>
      rw [List.append_nil]
      exact hull
  | cons line others ih =>
      have grown := ih (includeLine_hull hull line)
      rwa [List.append_assoc] at grown

theorem boundsOf_hull {lines : List (Line ℚ)} (present : lines ≠ [])
    (soft : ∀ line ∈ lines, 0 ≤ line.clearance.softUp ∧ 0 ≤ line.clearance.softDown) :
    (boundsOf lines).Hull lines := by
  obtain ⟨first, others, rfl⟩ := List.exists_cons_of_ne_nil present
  have start := soft first List.mem_cons_self
  exact foldl_includeLine_hull others (includeLine_start start.1 start.2)

end Bounds

section Center

variable {layout : Layout ℚ}

def bareLines (layout : Layout ℚ) : List (Line ℚ) := layout.elements.filterMap Element.asLine?

def centering (layout : Layout ℚ) : Point ℚ :=
  ⟨-(boundsOf layout.bareLines).center.x, -(boundsOf layout.bareLines).center.y⟩

theorem center_bounds (layout : Layout ℚ) :
    layout.center.bounds = (boundsOf layout.bareLines).shift layout.centering := rfl

theorem bareLines_center (layout : Layout ℚ) :
    layout.center.bareLines = layout.bareLines.map (Line.moved layout.centering) :=
  lines_shift layout.centering layout.elements

theorem rigid_center (layout : Layout ℚ) : layout.Rigid layout.centering layout.center where
  count := List.length_map _
  lines := by
    intro place line found
    have moved : layout.center.elements[place]? =
        layout.elements[place]?.map (·.shift layout.centering) := List.getElem?_map
    rw [line?_eq_some_iff] at found ⊢
    rw [moved, found]
    rfl
  connectors := by
    intro place connector found
    have moved : layout.center.elements[place]? =
        layout.elements[place]?.map (·.shift layout.centering) := List.getElem?_map
    obtain ⟨element, there, isConnector⟩ := Option.bind_eq_some_iff.mp found
    rw [connector?, moved, there]
    cases element with
    | line line => contradiction
    | connector placed =>
        obtain rfl := Option.some.inj isConnector
        rfl
  index := rfl
  thickness := rfl

theorem center_hull (soft : ∀ line ∈ layout.bareLines,
    0 ≤ line.clearance.softUp ∧ 0 ≤ line.clearance.softDown) (present : layout.bareLines ≠ []) :
    layout.center.bounds.Hull layout.center.bareLines := by
  rw [center_bounds, ← boundsOf_moved _ present, bareLines_center]
  refine boundsOf_hull (by simpa using present) ?_
  intro line member
  obtain ⟨before, known, rfl⟩ := List.mem_map.mp member
  exact soft before known

theorem center_of_no_lines (none : layout.bareLines = []) :
    layout.center.bounds = Bounds.zero := by
  have origin : boundsOf layout.bareLines = Bounds.zero := by
    rw [none]
    rfl
  rw [center_bounds, centering, origin]
  simp [Bounds.shift, Bounds.zero, Bounds.center, Point.origin, Point.add]

theorem Reached.soft_nonneg {thickness : Option ℚ} (reached : layout.Reached thickness) :
    ∀ line ∈ layout.bareLines, 0 ≤ line.clearance.softUp ∧ 0 ≤ line.clearance.softDown := by
  intro line member
  obtain ⟨element, listed, isLine⟩ := List.mem_filterMap.mp member
  obtain ⟨place, there⟩ := List.mem_iff_getElem?.mp listed
  have found : layout.line? place = some line := by
    rw [Layout.line?, there]
    exact isLine
  have sound := (reached.consistent.line found).toSound
  have reach := sound.property.reach_nonneg
  exact ⟨reach.trans sound.softUp, reach.trans sound.softDown⟩

/-- Centering moves everything by one offset, the same as in any other layout with these lines, so
that the least bounds around the lines have the origin as their center. After that it does nothing
more. -/
theorem center_fits {thickness : Option ℚ} (reached : layout.Reached thickness) :
    (∃ offset, layout.Rigid offset layout.center ∧
      ∀ other : Layout ℚ, other.bareLines = layout.bareLines →
        other.Rigid offset other.center ∧ other.center.bounds = layout.center.bounds) ∧
      (layout.center.bounds.low.x = -layout.center.bounds.high.x ∧
        layout.center.bounds.low.y = -layout.center.bounds.high.y) ∧
      (layout.bareLines = [] ∧ layout.center.bounds = Bounds.zero ∨
        layout.center.bounds.Hull layout.center.bareLines) ∧
      layout.center.center = layout.center := by
  refine ⟨⟨layout.centering, layout.rigid_center, ?_⟩, ?_, ?_, reached.center_moved _⟩
  · intro other same
    have offset : other.centering = layout.centering := by rw [centering, same, centering]
    refine ⟨offset ▸ other.rigid_center, ?_⟩
    rw [center_bounds, center_bounds, offset, same]
  · obtain ⟨left, right, bottom, top⟩ := layout.center_symmetric
    constructor
    · linarith
    · linarith
  · by_cases empty : layout.bareLines = []
    · exact Or.inl ⟨empty, center_of_no_lines empty⟩
    · exact Or.inr (center_hull reached.soft_nonneg empty)

theorem joinedLayout_fits :
    joinedLayout.Reached (some 3) ∧
      (joinedLayout.center.bounds.high.x = 30 ∧ joinedLayout.center.bounds.high.y = 15 / 2) ∧
      (∃ offset, joinedLayout.Rigid offset joinedLayout.center ∧
        ∀ other : Layout ℚ, other.bareLines = joinedLayout.bareLines →
          other.Rigid offset other.center ∧
            other.center.bounds = joinedLayout.center.bounds) ∧
      (joinedLayout.center.bounds.low.x = -joinedLayout.center.bounds.high.x ∧
        joinedLayout.center.bounds.low.y = -joinedLayout.center.bounds.high.y) ∧
      (joinedLayout.bareLines = [] ∧ joinedLayout.center.bounds = Bounds.zero ∨
        joinedLayout.center.bounds.Hull joinedLayout.center.bareLines) ∧
      joinedLayout.center.center = joinedLayout.center :=
  ⟨reached_joinedLayout, by decide +kernel, center_fits reached_joinedLayout⟩

end Center

end Layout

end Waveguide
