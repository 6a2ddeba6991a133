import Mathlib
import Waveguide.Proofs.Built
import Waveguide.Proofs.Subdivision

/-!
The segments of a line against the pattern it is drawn from. The walk that finds them keeps a place
and a rest and branches at both ends of the line; what it finds is what the line shows of every flat
and groove of the pattern, from left to right, without those too short to be drawn.
-/

namespace Waveguide

namespace Spans

variable {left right : ℚ} {stretches : List (Stretch ℚ)}

theorem length_eq (spans : Spans left stretches right) {stretch : Stretch ℚ}
    (member : stretch ∈ stretches) : stretch.length = stretch.segment.length := by
  induction spans with
  | nil x => exact absurd member List.not_mem_nil
  | cons kind x forward rest ih =>
      rcases List.mem_cons.mp member with rfl | later
      · simp [Segment.length]
      · exact ih later

theorem ordered (spans : Spans left stretches right) :
    stretches.Pairwise fun a b => a.segment.finish ≤ b.segment.start := by
  induction spans with
  | nil x => exact .nil
  | cons kind x forward rest ih =>
      exact .cons (fun other later => (rest.within later).1) ih

end Spans

namespace Line

def kindAt (line : Line ℚ) (x : ℚ) : SegmentKind :=
  let grooves := line.property.grooves
  if grooves.period * Int.fract (line.periodsAt x) < grooves.period - grooves.width then .flat
  else .groove

/-- The segments that a line ought to have: what it shows of the flats and grooves of the pattern
that its skip places, from left to right, as far as they are longer than the tolerance. -/
structure Ideal (line : Line ℚ) (segments : List (Segment ℚ)) : Prop where
  ordered : segments.Pairwise fun a b => a.finish ≤ b.start
  shown : ∀ segment, segment ∈ segments ↔
    (∃ count kind, segment = line.property.grooves.clip
      (line.start.x - line.skip * line.property.grooves.period) line.start.x line.finish.x
      count kind) ∧ Scalar.tolerance < segment.length

variable {line : Line ℚ}

theorem Ideal.unique {segments others : List (Segment ℚ)} (ideal : line.Ideal segments)
    (other : line.Ideal others) : segments = others := by
  let before (a b : Segment ℚ) : Prop := a.start < b.start
  have irrefl : Std.Irrefl before := ⟨fun a => lt_irrefl a.start⟩
  have antisymm : Std.Antisymm before := ⟨fun a b ab ba => absurd ab (lt_asymm ba)⟩
  have strict {list : List (Segment ℚ)} (ideal : line.Ideal list) : list.Pairwise before := by
    refine List.Pairwise.imp_of_mem (fun {a b} aMember _ follows => ?_) ideal.ordered
    have long := ((ideal.shown a).mp aMember).2
    have positive := Scalar.tolerance_pos
    simp only [before, Segment.length] at long ⊢
    linarith
  exact (strict ideal).eq_of_mem_iff (strict other) fun segment =>
    (ideal.shown segment).trans (other.shown segment).symm

theorem clip_of_le (ordered : line.start.x ≤ line.finish.x) (count : ℤ) (kind : SegmentKind) :
    line.clip count kind = line.property.grooves.clip
      (line.start.x - line.skip * line.property.grooves.period) line.start.x line.finish.x
      count kind := by
  rw [clip, origin, minX_of_le ordered, maxX_of_le ordered]

theorem clip_passed (patterned : line.Patterned) (level : line.Level) {count : ℤ}
    {kind : SegmentKind} (shown : 0 < (line.clip count kind).length) :
    ∃ stretch ∈ line.stretches, stretch.segment = line.clip count kind := by
  obtain ⟨x, above, below⟩ := exists_between (sub_pos.mp shown)
  have opens := max_lt_iff.mp above
  have closes := lt_min_iff.mp below
  obtain ⟨stretch, passed, here⟩ := stretches_cover patterned level opens.1.le closes.1.le
  obtain ⟨other, otherKind, segment⟩ := stretches_clip patterned level passed
  rw [segment] at here
  have same := patterned.regular.part_eq ⟨opens.2, closes.2⟩
    ⟨(le_max_right _ _).trans here.1, here.2.trans (min_le_right _ _)⟩
  exact ⟨stretch, passed, by rw [segment, same.1, same.2]⟩

theorem mem_segments_iff_clip (patterned : line.Patterned) (level : line.Level)
    {segment : Segment ℚ} :
    segment ∈ line.segments ↔
      (∃ count kind, segment = line.clip count kind) ∧ Scalar.tolerance < segment.length := by
  have spans := stretches_spans patterned level
  rw [mem_segments]
  constructor
  · rintro ⟨stretch, passed, long, rfl⟩
    exact ⟨stretches_clip patterned level passed, spans.length_eq passed ▸ long⟩
  · rintro ⟨⟨count, kind, rfl⟩, long⟩
    obtain ⟨stretch, passed, same⟩ :=
      clip_passed patterned level (Scalar.tolerance_pos.trans long)
    exact ⟨stretch, passed, by rwa [spans.length_eq passed, same], same⟩

theorem segments_ordered (patterned : line.Patterned) (level : line.Level) :
    line.segments.Pairwise fun a b => a.finish ≤ b.start :=
  List.pairwise_map.mpr ((stretches_spans patterned level).ordered.filter _)

theorem kindAt_eq (regular : line.property.grooves.Regular)
    (ordered : line.start.x ≤ line.finish.x) {x : ℚ} {count : ℤ} {kind : SegmentKind}
    (opens : line.origin + count * line.property.grooves.period +
      line.property.grooves.opens kind < x)
    (closes : x < line.origin + count * line.property.grooves.period +
      line.property.grooves.closes kind) : line.kindAt x = kind := by
  have period := regular.period
  have phase : line.property.grooves.period * line.periodsAt x = x - line.origin := by
    rw [origin, minX_of_le ordered, periodsAt]
    field_simp
    ring
  simp only [kindAt]
  generalize line.periodsAt x = periods at phase ⊢
  have floor : ⌊periods⌋ = count := by
    have first := regular.opens_nonneg kind
    have last := regular.closes_le kind
    rw [Int.floor_eq_iff]
    constructor
    · apply le_of_mul_le_mul_left _ period
      linarith
    · apply lt_of_mul_lt_mul_left _ period.le
      linarith
  have rest : line.property.grooves.period * Int.fract periods =
      x - line.origin - count * line.property.grooves.period := by
    rw [Int.fract, floor, mul_sub, phase]
    ring
  cases kind with
  | flat =>
      rw [Grooves.closes] at closes
      rw [if_pos (by linarith)]
  | groove =>
      rw [Grooves.opens] at opens
      rw [if_neg (by linarith)]

theorem segments_kind (patterned : line.Patterned) (level : line.Level)
    (ordered : line.start.x ≤ line.finish.x) {segment : Segment ℚ}
    (member : segment ∈ line.segments) {x : ℚ} (inside : segment.start < x ∧ x < segment.finish) :
    segment.kind = line.kindAt x := by
  obtain ⟨⟨count, kind, rfl⟩, -⟩ := (mem_segments_iff_clip patterned level).mp member
  exact (kindAt_eq patterned.regular ordered (max_lt_iff.mp inside.1).2
    (lt_min_iff.mp inside.2).2).symm

/-- The segments of a horizontal line are the ideal ones, and no other list is. -/
theorem segments_ideal (level : line.Level) (ordered : line.start.x ≤ line.finish.x)
    (patterned : line.Patterned) :
    line.Ideal line.segments ∧
      (∀ segments, line.Ideal segments → segments = line.segments) ∧
      ∀ segment ∈ line.segments,
        (line.start.x ≤ segment.start ∧ segment.finish ≤ line.finish.x) ∧
        ∀ x, segment.start < x → x < segment.finish → segment.kind = line.kindAt x := by
  have ideal : line.Ideal line.segments := {
    ordered := segments_ordered patterned level
    shown := fun segment => by
      simp only [mem_segments_iff_clip patterned level, clip_of_le ordered] }
  refine ⟨ideal, fun segments other => other.unique ideal, fun segment member => ⟨?_, ?_⟩⟩
  · rw [← minX_of_le ordered, ← maxX_of_le ordered]
    exact segments_within patterned level member
  · exact fun x above below => segments_kind patterned level ordered member ⟨above, below⟩

def closingLine : Line ℚ where
  id := none
  comment := none
  start := .plain ⟨3, 0⟩
  finish := .plain ⟨24, 0⟩
  property := sampleGuide
  skip := 1 - 1 / 20000000
  clearance := .ofProperty sampleGuide
  elevation := none
  parent := none

theorem closingLine_level : closingLine.Level := by
  decide +kernel

theorem closingLine_patterned : closingLine.Patterned where
  regular := ⟨by decide +kernel, by decide +kernel, by decide +kernel⟩
  skip_nonneg := by decide +kernel
  skip_lt_one := by decide +kernel

theorem closingLine_ideal :
    (closingLine.Level ∧ closingLine.start.x ≤ closingLine.finish.x ∧ closingLine.Patterned) ∧
      closingLine.Ideal closingLine.segments ∧
      closingLine.segments.map (fun segment => (segment.kind, segment.start)) =
        [(.flat, 3 + 1 / 2000000), (.groove, 11 + 1 / 2000000), (.flat, 13 + 1 / 2000000),
          (.groove, 21 + 1 / 2000000), (.flat, 23 + 1 / 2000000)] := by
  have ordered : closingLine.start.x ≤ closingLine.finish.x := by decide +kernel
  exact ⟨⟨closingLine_level, ordered, closingLine_patterned⟩,
    (segments_ideal closingLine_level ordered closingLine_patterned).1, by decide +kernel⟩

end Line

end Waveguide
