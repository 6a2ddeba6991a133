import Mathlib
import Waveguide.Proofs.Settling

/-!
The two quantities that settling uses up. Cuts are made at line ends that were there from the start,
each of them strictly inside a line, so they take away from the ends that lie strictly inside lines.
Splits take more than the tolerance from the sum of the soft clearances, and none of these outgrows
what all lines had together at the start.
-/

namespace Waveguide

namespace Line

def openings (edges : Finset ℚ) (line : Line ℚ) : Nat :=
  (edges.filter fun x => line.minX < x ∧ x < line.maxX).card

def EndsIn (edges : Finset ℚ) (line : Line ℚ) : Prop :=
  line.start.x ∈ edges ∧ line.finish.x ∈ edges

theorem EndsIn.minX_mem {edges : Finset ℚ} {line : Line ℚ} (ends : line.EndsIn edges) :
    line.minX ∈ edges := by
  unfold minX
  split
  · exact ends.1
  · exact ends.2

theorem EndsIn.maxX_mem {edges : Finset ℚ} {line : Line ℚ} (ends : line.EndsIn edges) :
    line.maxX ∈ edges := by
  unfold maxX
  split
  · exact ends.2
  · exact ends.1

theorem EndsIn.openings_le {edges : Finset ℚ} {line : Line ℚ} (ends : line.EndsIn edges) :
    line.openings edges ≤ edges.card - 2 := by
  rcases line.minX_le_maxX.eq_or_lt with point | long
  · have empty : line.openings edges = 0 := by
      rw [openings, Finset.card_eq_zero, Finset.filter_eq_empty_iff]
      rintro x _ ⟨above, below⟩
      exact absurd (above.trans below) (not_lt.mpr point.ge)
    omega
  · have inner : (edges.filter fun x => line.minX < x ∧ x < line.maxX) ⊆
        (edges.erase line.minX).erase line.maxX := by
      intro x member
      obtain ⟨known, above, below⟩ := Finset.mem_filter.mp member
      exact Finset.mem_erase.mpr ⟨below.ne, Finset.mem_erase.mpr ⟨above.ne', known⟩⟩
    have smaller := Finset.card_le_card inner
    rw [Finset.card_erase_of_mem (Finset.mem_erase.mpr ⟨long.ne', ends.maxX_mem⟩),
      Finset.card_erase_of_mem ends.minX_mem] at smaller
    unfold openings
    omega

theorem openings_cut {edges : Finset ℚ} {line : Line ℚ} {x : ℚ} (parent : Nat)
    (known : x ∈ edges) (inside : line.start.x < x ∧ x < line.finish.x) :
    (line.leftPart x).openings edges + (line.rightPart x parent).openings edges + 1 ≤
      line.openings edges := by
  have leftMin : (line.leftPart x).minX = line.start.x := minX_of_le inside.1.le
  have leftMax : (line.leftPart x).maxX = x := maxX_of_le inside.1.le
  have rightMin : (line.rightPart x parent).minX = x := minX_of_le inside.2.le
  have rightMax : (line.rightPart x parent).maxX = line.finish.x := maxX_of_le inside.2.le
  have ordered := (inside.1.trans inside.2).le
  simp only [openings, leftMin, leftMax, rightMin, rightMax, minX_of_le ordered,
    maxX_of_le ordered]
  have apart : Disjoint (edges.filter fun place => line.start.x < place ∧ place < x)
      (edges.filter fun place => x < place ∧ place < line.finish.x) := by
    rw [Finset.disjoint_filter]
    rintro place _ ⟨_, before⟩ ⟨after, _⟩
    exact lt_asymm before after
  have outside : x ∉ (edges.filter fun place => line.start.x < place ∧ place < x) ∪
      edges.filter fun place => x < place ∧ place < line.finish.x := by
    simp
  rw [← Finset.card_union_of_disjoint apart, ← Finset.card_insert_of_notMem outside]
  apply Finset.card_le_card
  intro place member
  rw [Finset.mem_insert, Finset.mem_union, Finset.mem_filter, Finset.mem_filter] at member
  rw [Finset.mem_filter]
  rcases member with rfl | ⟨member, above, below⟩ | ⟨member, above, below⟩
  · exact ⟨known, inside⟩
  · exact ⟨member, above, below.trans inside.2⟩
  · exact ⟨member, inside.1.trans above, below⟩

def soft (line : Line ℚ) : ℚ := line.clearance.softUp + line.clearance.softDown

structure SoftWithin (bound : ℚ) (line : Line ℚ) : Prop where
  up : line.clearance.softUp ≤ bound
  down : line.clearance.softDown ≤ bound
  hard : 2 * line.property.reach ≤ bound

theorem Sound.soft_nonneg {line : Line ℚ} (sound : line.Sound) : 0 ≤ line.soft := by
  have reach := sound.property.reach_nonneg
  have up := sound.softUp
  have down := sound.softDown
  unfold soft
  linarith

theorem Sound.softWithin {line : Line ℚ} {bound : ℚ} (sound : line.Sound)
    (within : line.soft ≤ bound) : line.SoftWithin bound := by
  have reach := sound.property.reach_nonneg
  have up := sound.softUp
  have down := sound.softDown
  unfold soft at within
  exact ⟨by linarith, by linarith, by linarith⟩

theorem SoftWithin.soft_le {line : Line ℚ} {bound : ℚ} (within : line.SoftWithin bound) :
    line.soft ≤ 2 * bound := by
  have up := within.up
  have down := within.down
  unfold soft
  linarith

end Line

theorem Crowded.shares_le {up low : Line ℚ} {bound : ℚ} (crowded : Crowded up low)
    (upSound : up.Sound) (lowSound : low.Sound) (upWithin : up.SoftWithin bound)
    (lowWithin : low.SoftWithin bound) :
    (Layout.shares up.clearance low.clearance (up.y - low.y)).1 ≤ bound ∧
      (Layout.shares up.clearance low.clearance (up.y - low.y)).2 ≤ bound := by
  have two : (2.0 : ℚ) = 2 := by norm_num
  have positive := Scalar.tolerance_pos
  have upReach := upSound.property.reach_nonneg
  have lowReach := lowSound.property.reach_nonneg
  have close := crowded.close
  have upDown := upWithin.down
  have lowUp := lowWithin.up
  have upHard := upWithin.hard
  have lowHard := lowWithin.hard
  simp only [Layout.shares, two, upSound.down, lowSound.up]
  split
  · exact ⟨by linarith, by linarith⟩
  · rename_i short
    rw [not_and_or, not_le, not_le] at short
    rcases short with short | short
    · exact ⟨by linarith, by linarith⟩
    · exact ⟨by linarith, by linarith⟩

namespace Layout

def edges (layout : Layout ℚ) : Finset ℚ :=
  (layout.lines.map fun entry => entry.2.start.x).toFinset ∪
    (layout.lines.map fun entry => entry.2.finish.x).toFinset

theorem edges_card_le (layout : Layout ℚ) : layout.edges.card ≤ 2 * layout.lines.length := by
  have starts := List.toFinset_card_le (layout.lines.map fun entry => entry.2.start.x)
  have finishes := List.toFinset_card_le (layout.lines.map fun entry => entry.2.finish.x)
  rw [List.length_map] at starts finishes
  exact (Finset.card_union_le _ _).trans (by omega)

theorem endsIn_edges (layout : Layout ℚ) : layout.All (Line.EndsIn layout.edges) := by
  intro handle line found
  have listed : (handle, line) ∈ layout.lines := mem_lines.mpr found
  constructor
  · exact Finset.mem_union_left _ (List.mem_toFinset.mpr (List.mem_map.mpr ⟨_, listed, rfl⟩))
  · exact Finset.mem_union_right _ (List.mem_toFinset.mpr (List.mem_map.mpr ⟨_, listed, rfl⟩))

theorem total_le {M : Type} [AddCommMonoid M] [PartialOrder M] [IsOrderedAddMonoid M]
    {weight : Line ℚ → M} {bound : M} {layout : Layout ℚ}
    (within : layout.All fun line => weight line ≤ bound) :
    layout.total weight ≤ layout.lines.length • bound := by
  have listed : ∀ value ∈ layout.lines.map fun entry => weight entry.2, value ≤ bound := by
    intro value member
    obtain ⟨entry, known, rfl⟩ := List.mem_map.mp member
    exact within entry.1 entry.2 (mem_lines.mp known)
  simpa [total] using List.sum_le_card_nsmul _ bound listed

theorem total_nonneg {weight : Line ℚ → ℚ} {layout : Layout ℚ}
    (nonneg : layout.All fun line => 0 ≤ weight line) : 0 ≤ layout.total weight := by
  apply List.sum_nonneg
  intro value member
  obtain ⟨entry, known, rfl⟩ := List.mem_map.mp member
  exact nonneg entry.1 entry.2 (mem_lines.mp known)

theorem le_total {weight : Line ℚ → ℚ} {layout : Layout ℚ}
    (nonneg : layout.All fun line => 0 ≤ weight line) {handle : Nat} {line : Line ℚ}
    (found : layout.line? handle = some line) : weight line ≤ layout.total weight := by
  apply List.single_le_sum
  · intro value member
    obtain ⟨entry, known, rfl⟩ := List.mem_map.mp member
    exact nonneg entry.1 entry.2 (mem_lines.mp known)
  · exact List.mem_map.mpr ⟨(handle, line), mem_lines.mpr found, rfl⟩

theorem total_one (layout : Layout ℚ) : layout.total (fun _ => 1) = layout.lines.length := by
  simp [total]

theorem total_afterSplit {M : Type} [AddCommMonoid M] (weight : Line ℚ → M) {layout : Layout ℚ}
    {upper lower : Nat} {up low : Line ℚ} (step : layout.SplitStep upper lower up low) :
    (layout.afterSplit upper lower up low).total weight + weight up + weight low =
      layout.total weight +
        weight (up.withSoftDown (shares up.clearance low.clearance (up.y - low.y)).1) +
        weight (low.withSoftUp (shares up.clearance low.clearance (up.y - low.y)).2) := by
  have kept : (layout.setLine upper
      (up.withSoftDown (shares up.clearance low.clearance (up.y - low.y)).1)).line? lower =
        some low :=
    (line?_setLine_of_ne _ step.different.symm).trans step.lower
  have second := total_setLine weight
    (low.withSoftUp (shares up.clearance low.clearance (up.y - low.y)).2) kept
  have first := total_setLine weight
    (up.withSoftDown (shares up.clearance low.clearance (up.y - low.y)).1) step.upper
  rw [add_right_comm, ← first]
  unfold afterSplit
  rw [second]
  abel

/-- What settling has used up and what it still has. -/
structure Progress (start : Layout ℚ) (cuts : Nat) (state : Layout ℚ) : Prop where
  ends : state.All (Line.EndsIn start.edges)
  soft : state.All (Line.SoftWithin (start.total Line.soft))
  count : state.lines.length = start.lines.length + cuts
  openings : state.total (Line.openings start.edges) + cuts ≤
    start.total (Line.openings start.edges)

theorem Progress.initial {start : Layout ℚ} (sound : start.All Line.Sound) :
    Progress start 0 start := by
  refine ⟨start.endsIn_edges, ?_, by simp, by simp⟩
  intro handle line found
  refine (sound handle line found).softWithin (le_total ?_ found)
  intro other line found
  exact (sound other line found).soft_nonneg

theorem Progress.afterCut {start layout : Layout ℚ} {cuts handle : Nat} {line : Line ℚ} {x : ℚ}
    (progress : Progress start cuts layout) (sound : layout.All Line.Sound)
    (step : layout.CutStep handle line x) :
    (layout.afterCut handle (line.leftPart x) (line.rightPart x handle)).total
        (Line.openings start.edges) + 1 ≤ layout.total (Line.openings start.edges) ∧
      Progress start (cuts + 1)
        (layout.afterCut handle (line.leftPart x) (line.rightPart x handle)) := by
  have bound := line?_bound step.found
  have inside := step.inside (sound handle line step.found)
  have known : x ∈ start.edges := by
    obtain ⟨other, listed, overhang⟩ := step.overhang
    have otherEnds := progress.ends other.1 other.2 (mem_lines.mp listed)
    rcases overhang.edge with rfl | rfl
    · exact otherEnds.minX_mem
    · exact otherEnds.maxX_mem
  have ends := progress.ends handle line step.found
  have soft := progress.soft handle line step.found
  have fewer := Line.openings_cut handle known inside
  have moved := total_afterCut (Line.openings start.edges) (line.leftPart x)
    (line.rightPart x handle) step.found
  have counted := total_afterCut (fun _ => 1) (line.leftPart x) (line.rightPart x handle) step.found
  rw [total_one, total_one] at counted
  have before := progress.openings
  refine ⟨by omega, ?_, ?_, ?_, by omega⟩
  · exact progress.ends.afterCut bound ⟨ends.1, known⟩ ⟨known, ends.2⟩
  · exact progress.soft.afterCut bound ⟨soft.up, soft.down, soft.hard⟩
      ⟨soft.up, soft.down, soft.hard⟩
  · have total := progress.count
    omega

theorem Progress.afterSplit {start layout : Layout ℚ} {cuts upper lower : Nat} {up low : Line ℚ}
    (progress : Progress start cuts layout) (sound : layout.All Line.Sound)
    (step : layout.SplitStep upper lower up low) :
    (layout.afterSplit upper lower up low).total Line.soft + Scalar.tolerance <
        layout.total Line.soft ∧
      (layout.afterSplit upper lower up low).total (Line.openings start.edges) =
        layout.total (Line.openings start.edges) ∧
      Progress start cuts (layout.afterSplit upper lower up low) := by
  have upEnds := progress.ends upper up step.upper
  have lowEnds := progress.ends lower low step.lower
  have upSoft := progress.soft upper up step.upper
  have lowSoft := progress.soft lower low step.lower
  have within := step.crowded.shares_le (sound upper up step.upper) (sound lower low step.lower)
    upSoft lowSoft
  have close := step.crowded.close
  have shared := shares_sum up.clearance low.clearance (up.y - low.y)
  have opened := total_afterSplit (Line.openings start.edges) step
  have softened := total_afterSplit Line.soft step
  have counted := total_afterSplit (fun _ => 1) step
  rw [total_one, total_one] at counted
  have same : (layout.afterSplit upper lower up low).total (Line.openings start.edges) =
      layout.total (Line.openings start.edges) := by
    change _ + up.openings start.edges + low.openings start.edges =
      _ + up.openings start.edges + low.openings start.edges at opened
    omega
  refine ⟨?_, same, ?_, ?_, ?_, ?_⟩
  · simp only [Line.soft, Line.withSoftUp, Line.withSoftDown] at softened
    linarith
  · exact progress.ends.afterSplit step upEnds lowEnds
  · exact progress.soft.afterSplit step ⟨upSoft.up, within.1, upSoft.hard⟩
      ⟨within.2, lowSoft.down, lowSoft.hard⟩
  · have total := progress.count
    omega
  · rw [same]
    exact progress.openings

theorem SettlingWith.progress {admits : Line ℚ → ℚ → Prop} {start state : Layout ℚ} {cuts : Nat}
    (run : SettlingWith admits start cuts state) (sound : start.All Line.Sound) :
    Progress start cuts state := by
  refine SettlingWith.along (motive := Progress start) (Progress.initial sound) ?_ ?_ run
  · intro cuts layout handle line x before progress step _
    exact (progress.afterCut (before.sound sound) step).2
  · intro cuts layout upper lower up low before progress step
    exact (progress.afterSplit (before.sound sound) step).2.2

theorem total_openings_le (start : Layout ℚ) :
    start.total (Line.openings start.edges) ≤
      2 * start.lines.length * (start.lines.length - 1) := by
  have each : start.All fun line =>
      line.openings start.edges ≤ 2 * (start.lines.length - 1) := by
    intro handle line found
    have few := start.edges_card_le
    have inside := (start.endsIn_edges handle line found).openings_le
    omega
  calc start.total (Line.openings start.edges)
      ≤ start.lines.length • (2 * (start.lines.length - 1)) := total_le each
    _ = 2 * start.lines.length * (start.lines.length - 1) := by
      rw [smul_eq_mul]
      ring

end Layout

end Waveguide
