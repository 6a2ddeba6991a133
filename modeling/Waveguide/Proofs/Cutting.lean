import Mathlib
import Waveguide.Proofs.Drawing
import Waveguide.Proofs.Pattern
import Waveguide.Proofs.Revision

/-!
Cutting one line. The two parts are as long as the line, and the right one takes up the grooves where
the left one ends: its skip is the number of periods up to the cut, but for whole periods and for a
fraction too small to keep. Nothing else is drawn than before, except where a segment is too short.
-/

namespace Waveguide

theorem normalizeSkip_near (skip : ℚ) :
    ∃ count : ℤ, |normalizeSkip skip - (skip + count)| < Scalar.tolerance := by
  have rest : ∀ count : ℤ, skip + count = Int.fract skip + (⌊skip⌋ + count : ℤ) := by
    intro count
    rw [Int.fract]
    push_cast
    ring
  rw [normalizeSkip_eq]
  split
  · rename_i snapped
    rcases snapped with low | high
    · refine ⟨-⌊skip⌋, ?_⟩
      rw [rest, add_neg_cancel, Int.cast_zero, add_zero, zero_sub, abs_neg,
        abs_of_nonneg (Int.fract_nonneg skip)]
      exact low
    · refine ⟨-⌊skip⌋ - 1, ?_⟩
      have below := Int.fract_lt_one skip
      rw [rest, show ⌊skip⌋ + (-⌊skip⌋ - 1) = -1 by ring, Int.cast_neg, Int.cast_one, zero_sub,
        abs_neg, abs_of_nonpos (by linarith)]
      linarith
  · refine ⟨-⌊skip⌋, ?_⟩
    rw [rest, add_neg_cancel, Int.cast_zero, add_zero, sub_self, abs_zero]
    exact Scalar.tolerance_pos

theorem normalizeSkip_exact_iff (skip : ℚ) :
    (∃ count : ℤ, normalizeSkip skip = skip + count) ↔ Unsnapped skip := by
  constructor
  · rintro ⟨count, kept⟩
    by_cases snapped : Int.fract skip < Scalar.tolerance ∨ 1 - Scalar.tolerance < Int.fract skip
    · left
      rw [normalizeSkip_eq, if_pos snapped] at kept
      rw [show skip = ((-count : ℤ) : ℚ) by push_cast; linarith, Int.fract_intCast]
    · right
      push Not at snapped
      exact snapped
  · intro unsnapped
    refine ⟨-⌊skip⌋, ?_⟩
    rw [unsnapped.normalizeSkip_eq, Int.fract, Int.cast_neg, sub_eq_add_neg]

/-- A fraction of a period that a line can begin with: none, or one that is well inside a period. -/
def IsPhase (skip : ℚ) : Prop :=
  skip = 0 ∨ Scalar.tolerance ≤ skip ∧ skip ≤ 1 - Scalar.tolerance

theorem IsPhase.fract_eq {skip : ℚ} (phase : IsPhase skip) : Int.fract skip = skip := by
  have positive := Scalar.tolerance_pos
  rcases phase with rfl | ⟨above, below⟩
  · exact Int.fract_zero
  · rw [Int.fract_eq_self]
    exact ⟨positive.le.trans above, by linarith⟩

theorem normalizeSkip_eq_self_iff (skip : ℚ) : normalizeSkip skip = skip ↔ IsPhase skip := by
  constructor
  · intro kept
    have phase := normalizeSkip_phase skip
    rwa [kept] at phase
  · intro phase
    have unsnapped : Unsnapped skip := by
      rw [Unsnapped, phase.fract_eq]
      exact phase
    rw [unsnapped.normalizeSkip_eq, phase.fract_eq]

theorem normalizeSkip_add_intCast (skip : ℚ) (count : ℤ) :
    normalizeSkip (skip + count) = normalizeSkip skip := by
  rw [normalizeSkip_eq, normalizeSkip_eq, Int.fract_add_intCast]

/-- Normalizing takes every number of periods to a phase and leaves the phases as they are. Whole
periods do not matter to it, and what else it drops is less than the tolerance: nothing, if and only
if the fraction of the number is none or is not that close to a whole one. -/
theorem normalizeSkip_projects (skip : ℚ) :
    IsPhase (normalizeSkip skip) ∧
      normalizeSkip (normalizeSkip skip) = normalizeSkip skip ∧
      (∀ count : ℤ, normalizeSkip (skip + count) = normalizeSkip skip) ∧
      (∃ count : ℤ, |skip - count - normalizeSkip skip| < Scalar.tolerance) ∧
      ((∃ count : ℤ, skip - normalizeSkip skip = count) ↔ Unsnapped skip) := by
  have phase : IsPhase (normalizeSkip skip) := normalizeSkip_phase skip
  refine ⟨phase, (normalizeSkip_eq_self_iff _).mpr phase, normalizeSkip_add_intCast skip, ?_, ?_⟩
  · obtain ⟨count, near⟩ := normalizeSkip_near skip
    refine ⟨-count, ?_⟩
    rwa [abs_sub_comm, Int.cast_neg, sub_neg_eq_add]
  · rw [← normalizeSkip_exact_iff]
    constructor
    · rintro ⟨count, whole⟩
      exact ⟨-count, by rw [Int.cast_neg]; linarith⟩
    · rintro ⟨count, kept⟩
      exact ⟨-count, by rw [Int.cast_neg, kept]; ring⟩

namespace Line

variable {line : Line ℚ} {x : ℚ}

theorem fract_skipAt (period : 0 < line.property.grooves.period) (x : ℚ) :
    Int.fract (line.skipAt x) = Int.fract (line.periodsAt x) := by
  obtain ⟨count, skip⟩ := skipAt_eq period x
  rw [skip, Int.fract_add_intCast]

theorem skip_rightPart (period : 0 < line.property.grooves.period) (x : ℚ) (parent : Nat) :
    (line.rightPart x parent).skip = normalizeSkip (line.periodsAt x) := by
  change normalizeSkip (line.skipAt x) = _
  rw [normalizeSkip_eq, normalizeSkip_eq, fract_skipAt period]

def Shows (line : Line ℚ) (x : ℚ) : Prop :=
  ∃ segment ∈ line.segments, segment.start ≤ x ∧ x ≤ segment.finish

/-- The place is in what the line shows of a flat or groove, but that is too short to be drawn. -/
def Omits (line : Line ℚ) (x : ℚ) : Prop :=
  ∃ count kind, (line.clip count kind).length ≤ Scalar.tolerance ∧
    (line.clip count kind).start ≤ x ∧ x ≤ (line.clip count kind).finish

theorem shows_or_omits (patterned : line.Patterned) (level : line.Level) (above : line.minX ≤ x)
    (below : x ≤ line.maxX) : line.Shows x ∨ line.Omits x := by
  obtain ⟨stretch, passed, here⟩ := stretches_cover patterned level above below
  obtain ⟨count, kind, segment⟩ := stretches_clip patterned level passed
  by_cases long : Scalar.tolerance < (line.clip count kind).length
  · left
    refine ⟨line.clip count kind, ?_, segment ▸ here⟩
    exact (mem_segments_iff_clip patterned level).mpr ⟨⟨count, kind, rfl⟩, long⟩
  · right
    exact ⟨count, kind, not_lt.mp long, segment ▸ here⟩

theorem Shows.within (patterned : line.Patterned) (level : line.Level) (shows : line.Shows x) :
    line.minX ≤ x ∧ x ≤ line.maxX := by
  obtain ⟨segment, member, above, below⟩ := shows
  have range := segments_within patterned level member
  exact ⟨range.1.trans above, below.trans range.2⟩

/-- What a cut at a place leaves of a line. -/
structure Divided (line : Line ℚ) (x : ℚ) (left right : Line ℚ) : Prop where
  meet : left.finish.x = x ∧ right.start.position = left.finish.position ∧
    right.finish = line.finish
  length : left.length + right.length = line.length
  start : left.start = line.start
  skip : left.skip = line.skip
  near : ∃ count : ℤ, |right.skip - (line.periodsAt x + count)| < Scalar.tolerance
  exact_iff : (∃ count : ℤ, right.skip = line.periodsAt x + count) ↔ Unsnapped (line.periodsAt x)
  kind : Unsnapped (line.periodsAt x) → ∀ part ∈ [left, right], ∀ piece ∈ part.segments,
    ∀ segment ∈ line.segments, ∀ place, piece.start < place ∧ place < piece.finish →
      segment.start < place ∧ place < segment.finish → piece.kind = segment.kind
  lost : ∀ place, line.Shows place → ¬ left.Shows place → ¬ right.Shows place →
    left.Omits place ∨ right.Omits place
  added : ∀ place, left.Shows place ∨ right.Shows place → ¬ line.Shows place → line.Omits place

theorem kindAt_rightPart (period : 0 < line.property.grooves.period)
    (unsnapped : Unsnapped (line.periodsAt x)) (parent : Nat) (place : ℚ) :
    (line.rightPart x parent).kindAt place = line.kindAt place := by
  have start : (line.rightPart x parent).start.x = x := rfl
  have property : (line.rightPart x parent).property = line.property := rfl
  have shifted : (line.rightPart x parent).periodsAt place =
      line.periodsAt place + (-⌊line.periodsAt x⌋ : ℤ) := by
    rw [periodsAt, skip_rightPart period, unsnapped.normalizeSkip_eq, start, property, Int.fract,
      periodsAt, periodsAt]
    push_cast
    field_simp
    ring
  simp only [kindAt, property, shifted, Int.fract_add_intCast]

theorem Patterned.rightPart (patterned : line.Patterned) (x : ℚ) (parent : Nat) :
    (line.rightPart x parent).Patterned where
  regular := patterned.regular
  skip_nonneg := normalizeSkip_nonneg _
  skip_lt_one := normalizeSkip_lt_one _

theorem divided (level : line.Level) (patterned : line.Patterned) (above : line.start.x ≤ x)
    (below : x ≤ line.finish.x) (parent : Nat) :
    line.Divided x (line.leftPart x) (line.rightPart x parent) := by
  have period := patterned.regular.period
  have ordered := above.trans below
  have leftLevel : (line.leftPart x).Level := level
  have leftPatterned : (line.leftPart x).Patterned :=
    ⟨patterned.regular, patterned.skip_nonneg, patterned.skip_lt_one⟩
  have rightLevel : (line.rightPart x parent).Level := rfl
  have rightPatterned := patterned.rightPart x parent
  have leftMin : (line.leftPart x).minX = line.minX :=
    (minX_of_le above).trans (minX_of_le ordered).symm
  have leftMax : (line.leftPart x).maxX = x := maxX_of_le above
  have rightMin : (line.rightPart x parent).minX = x := minX_of_le below
  have rightMax : (line.rightPart x parent).maxX = line.maxX :=
    (maxX_of_le below).trans (maxX_of_le ordered).symm
  have lineMin : line.minX ≤ x := (minX_of_le ordered).le.trans above
  have lineMax : x ≤ line.maxX := below.trans (maxX_of_le ordered).ge
  refine {
    meet := ⟨rfl, rfl, rfl⟩
    length := ?_
    start := rfl
    skip := rfl
    near := ?_
    exact_iff := ?_
    kind := ?_
    lost := ?_
    added := ?_ }
  · rw [leftLevel.length_eq, rightLevel.length_eq, level.length_eq, leftMin, leftMax, rightMin,
      rightMax]
    ring
  · rw [skip_rightPart period]
    exact normalizeSkip_near _
  · rw [skip_rightPart period]
    exact normalizeSkip_exact_iff _
  · intro unsnapped part isPart piece drawn segment listed place inPiece inSegment
    rw [segments_kind patterned level ordered listed inSegment]
    rcases List.mem_pair.mp isPart with rfl | rfl
    · exact segments_kind leftPatterned leftLevel above drawn inPiece
    · rw [← kindAt_rightPart period unsnapped parent]
      exact segments_kind rightPatterned rightLevel below drawn inPiece
  · intro place shown leftHidden rightHidden
    have range := shown.within patterned level
    rcases le_total place x with before | behind
    · left
      exact (shows_or_omits leftPatterned leftLevel (leftMin ▸ range.1)
        (leftMax.symm ▸ before)).resolve_left leftHidden
    · right
      exact (shows_or_omits rightPatterned rightLevel (rightMin.symm ▸ behind)
        (rightMax ▸ range.2)).resolve_left rightHidden
  · intro place shown hidden
    refine (shows_or_omits patterned level ?_ ?_).resolve_left hidden
    · rcases shown with left | right
      · exact leftMin ▸ (left.within leftPatterned leftLevel).1
      · exact lineMin.trans (rightMin ▸ (right.within rightPatterned rightLevel).1)
    · rcases shown with left | right
      · exact (leftMax ▸ (left.within leftPatterned leftLevel).2).trans lineMax
      · exact rightMax ▸ (right.within rightPatterned rightLevel).2

theorem cut_of_lt {line : Line ℚ} (reversed : line.finish.x < line.start.x) (x : ℚ)
    (parent : Nat) :
    line.cut x parent = .error (.lineEndsOrder line.start.x line.finish.x) :=
  if_pos reversed

/-- A horizontal line can be cut wherever it goes, and its grooves go on as they were. A line that
runs to the left cannot be cut at all, and settling stops without having changed it. -/
theorem cut_keeps_phase (line : Line ℚ) (x : ℚ) (handle : Nat) :
    (line.Level → line.Patterned → line.start.x ≤ x → x ≤ line.finish.x →
      ∃ left right, line.cut x handle = .ok (left, right) ∧ line.Divided x left right) ∧
    (line.finish.x < line.start.x →
      line.cut x handle = .error (.lineEndsOrder line.start.x line.finish.x) ∧
      ∀ (layout : Layout ℚ) (scans cuts : Nat), layout.line? handle = some line →
        layout.nextChange = .ok (some (.cut handle x)) →
          layout.settleWithin (scans + 1) cuts =
            (layout, .error (.lineEndsOrder line.start.x line.finish.x))) := by
  constructor
  · intro level patterned above below
    exact ⟨_, _, cut_of_le (above.trans below) x handle,
      divided level patterned above below handle⟩
  · intro reversed
    have refused := cut_of_lt reversed x handle
    refine ⟨refused, fun layout scans cuts found asked => ?_⟩
    have stopped : layout.cutLine handle x =
        .error (.lineEndsOrder line.start.x line.finish.x) := by
      simp only [Layout.cutLine, found, refused]
      rfl
    simp only [Layout.settleWithin, Layout.scan, asked, stopped]

def backwardLine : Line ℚ :=
  { closingLine with start := .plain ⟨30, 0⟩, finish := .plain ⟨0, 0⟩ }

def crossedLayout : Layout ℚ :=
  { Layout.empty none with
    elements := [.line backwardLine,
      .line { closingLine with start := .plain ⟨10, 7⟩, finish := .plain ⟨40, 7⟩ }] }

theorem closingLine_cut :
    (closingLine.Level ∧ closingLine.Patterned ∧ closingLine.start.x ≤ 137 / 10 ∧
      137 / 10 ≤ closingLine.finish.x ∧ Unsnapped (closingLine.periodsAt (137 / 10))) ∧
      (∃ left right, closingLine.cut (137 / 10) 0 = .ok (left, right) ∧
        closingLine.Divided (137 / 10) left right) ∧
      (backwardLine.finish.x < backwardLine.start.x ∧
        crossedLayout.line? 0 = some backwardLine ∧
        crossedLayout.nextChange = .ok (some (.cut 0 10))) ∧
      crossedLayout.settleWithin 1 0 = (crossedLayout, .error (.lineEndsOrder 30 0)) := by
  have level := closingLine_level
  have patterned := closingLine_patterned
  have above : closingLine.start.x ≤ 137 / 10 := by decide +kernel
  have below : 137 / 10 ≤ closingLine.finish.x := by decide +kernel
  have unsnapped : Unsnapped (closingLine.periodsAt (137 / 10)) := Or.inr (by decide +kernel)
  have reversed : backwardLine.finish.x < backwardLine.start.x := by decide +kernel
  have found : crossedLayout.line? 0 = some backwardLine := rfl
  have asked : crossedLayout.nextChange = .ok (some (.cut 0 10)) := by cbv
  have parts := (cut_keeps_phase closingLine (137 / 10) 0).1 level patterned above below
  have refused := (cut_keeps_phase backwardLine 10 0).2 reversed
  exact ⟨⟨level, patterned, above, below, unsnapped⟩, parts, ⟨reversed, found, asked⟩,
    refused.2 crossedLayout 0 0 found asked⟩

end Line

end Waveguide
