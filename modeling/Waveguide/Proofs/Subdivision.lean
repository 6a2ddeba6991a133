import Mathlib
import Waveguide.Block
import Waveguide.Proofs.Lines

/-!
The stretches of a line: they follow one another from its left end to its right end, and each is what
the line shows of one flat or one groove of the pattern that repeats from the line's origin.
-/

namespace Waveguide

inductive Spans : ℚ → List (Stretch ℚ) → ℚ → Prop
  | nil (x : ℚ) : Spans x [] x
  | cons (kind : SegmentKind) (x : ℚ) {length stretches right} : 0 ≤ length →
      Spans (x + length) stretches right →
      Spans x (⟨⟨kind, x, x + length⟩, length⟩ :: stretches) right

namespace Spans

theorem snoc {left x length : ℚ} {stretches : List (Stretch ℚ)} (kind : SegmentKind)
    (spans : Spans left stretches x) (nonneg : 0 ≤ length) :
    Spans left (stretches ++ [⟨⟨kind, x, x + length⟩, length⟩]) (x + length) := by
  induction spans with
  | nil x => exact .cons kind x nonneg (.nil _)
  | cons other x forward _ ih => exact .cons other x forward ih

theorem le {left right : ℚ} {stretches : List (Stretch ℚ)} (spans : Spans left stretches right) :
    left ≤ right := by
  induction spans with
  | nil x => exact le_rfl
  | cons kind x forward _ ih => linarith

theorem within {left right : ℚ} {stretches : List (Stretch ℚ)}
    (spans : Spans left stretches right) {stretch : Stretch ℚ} (member : stretch ∈ stretches) :
    left ≤ stretch.segment.start ∧ stretch.segment.finish ≤ right := by
  induction spans with
  | nil x => exact absurd member List.not_mem_nil
  | cons kind x forward rest ih =>
      rcases List.mem_cons.mp member with rfl | later
      · exact ⟨le_rfl, rest.le⟩
      · have known := ih later
        exact ⟨by linarith [known.1], known.2⟩

theorem covers {left right x : ℚ} {stretches : List (Stretch ℚ)}
    (spans : Spans left stretches right) (nonempty : stretches ≠ []) (above : left ≤ x)
    (below : x ≤ right) :
    ∃ stretch ∈ stretches, stretch.segment.start ≤ x ∧ x ≤ stretch.segment.finish := by
  induction spans with
  | nil => exact absurd rfl nonempty
  | @cons kind start length stretches right forward rest ih =>
      by_cases here : x ≤ start + length
      · exact ⟨_, List.mem_cons_self, above, here⟩
      · have later : stretches ≠ [] := by
          rintro rfl
          cases rest
          exact here below
        obtain ⟨other, member, found⟩ := ih later (not_le.mp here).le below
        exact ⟨other, List.mem_cons_of_mem _ member, found⟩

end Spans

/-- Measures with which a pattern repeats: a flat and a groove fill each period. -/
structure Grooves.Regular (grooves : Grooves ℚ) : Prop where
  period : 0 < grooves.period
  width : 0 ≤ grooves.width
  fits : grooves.width ≤ grooves.period

theorem LineProperty.Valid.regular {property : LineProperty ℚ} (valid : property.Valid) :
    property.grooves.Regular :=
  ⟨valid.period, valid.groove, valid.fits⟩

namespace Grooves

def opens (grooves : Grooves ℚ) : SegmentKind → ℚ
  | .flat => 0
  | .groove => grooves.period - grooves.width

def closes (grooves : Grooves ℚ) : SegmentKind → ℚ
  | .flat => grooves.period - grooves.width
  | .groove => grooves.period

/-- What a range shows of one flat or groove of the pattern whose periods begin at the origin. -/
def clip (grooves : Grooves ℚ) (origin left right : ℚ) (count : ℤ) (kind : SegmentKind) :
    Segment ℚ where
  kind := kind
  start := max left (origin + count * grooves.period + grooves.opens kind)
  finish := min right (origin + count * grooves.period + grooves.closes kind)

variable {grooves : Grooves ℚ}

theorem Regular.opens_nonneg (regular : grooves.Regular) (kind : SegmentKind) :
    0 ≤ grooves.opens kind := by
  cases kind with
  | flat => exact le_rfl
  | groove => exact sub_nonneg.mpr regular.fits

theorem Regular.closes_le (regular : grooves.Regular) (kind : SegmentKind) :
    grooves.closes kind ≤ grooves.period := by
  cases kind with
  | flat => exact sub_le_self _ regular.width
  | groove => exact le_rfl

theorem Regular.part_eq (regular : grooves.Regular) {origin x : ℚ} {m n : ℤ} {a b : SegmentKind}
    (inside : origin + m * grooves.period + grooves.opens a < x ∧
      x < origin + m * grooves.period + grooves.closes a)
    (within : origin + n * grooves.period + grooves.opens b ≤ x ∧
      x ≤ origin + n * grooves.period + grooves.closes b) : m = n ∧ a = b := by
  have period := regular.period
  have below : (m : ℚ) < n + 1 := by
    apply lt_of_mul_lt_mul_right _ period.le
    linarith [regular.opens_nonneg a, regular.closes_le b]
  have above : (n : ℚ) < m + 1 := by
    apply lt_of_mul_lt_mul_right _ period.le
    linarith [regular.opens_nonneg b, regular.closes_le a]
  have same : m = n := by
    have first : m < n + 1 := by exact_mod_cast below
    have second : n < m + 1 := by exact_mod_cast above
    omega
  subst same
  refine ⟨rfl, ?_⟩
  cases a with
  | flat =>
      cases b with
      | flat => rfl
      | groove => exact absurd (inside.2.trans_le within.1) (lt_irrefl x)
  | groove =>
      cases b with
      | flat => exact absurd (within.2.trans_lt inside.1) (lt_irrefl x)
      | groove => rfl

end Grooves

def Segment.Fits (grooves : Grooves ℚ) (origin : ℚ) (segment : Segment ℚ) : Prop :=
  ∃ count : ℤ, origin + count * grooves.period + grooves.opens segment.kind ≤ segment.start ∧
    segment.finish ≤ origin + count * grooves.period + grooves.closes segment.kind

theorem Grooves.clip_fits (grooves : Grooves ℚ) (origin left right : ℚ) (count : ℤ)
    (kind : SegmentKind) : (grooves.clip origin left right count kind).Fits grooves origin :=
  ⟨count, le_max_right _ _, min_le_right _ _⟩

theorem Segment.Fits.shift {grooves : Grooves ℚ} {origin : ℚ} {segment : Segment ℚ}
    (fits : segment.Fits grooves origin) (periods : ℤ) :
    segment.Fits grooves (origin + periods * grooves.period) := by
  obtain ⟨count, opened, closed⟩ := fits
  refine ⟨count - periods, ?_, ?_⟩
  · push_cast
    linarith
  · push_cast
    linarith

theorem Segment.Fits.kind_eq {grooves : Grooves ℚ} (regular : grooves.Regular) {origin x : ℚ}
    {a b : Segment ℚ} (aFits : a.Fits grooves origin) (bFits : b.Fits grooves origin)
    (aInside : a.start < x ∧ x < a.finish) (bInside : b.start < x ∧ x < b.finish) :
    a.kind = b.kind := by
  obtain ⟨m, aOpens, aCloses⟩ := aFits
  obtain ⟨n, bOpens, bCloses⟩ := bFits
  exact (regular.part_eq ⟨aOpens.trans_lt aInside.1, aInside.2.trans_le aCloses⟩
    ⟨bOpens.trans bInside.1.le, bInside.2.le.trans bCloses⟩).2

namespace Walk

/-- A walk between two places that has taken every flat and groove so far as far as it goes. -/
structure Follows (grooves : Grooves ℚ) (origin left right : ℚ) (walk : Walk ℚ) : Prop where
  spans : Spans left walk.passed.toList walk.x
  ahead : walk.x + walk.rest = right
  rest_nonneg : 0 ≤ walk.rest
  clips : ∀ stretch ∈ walk.passed.toList, ∃ count kind,
    stretch.segment = grooves.clip origin left right count kind

structure Arrives (grooves : Grooves ℚ) (origin left right : ℚ) (walk : Walk ℚ) : Prop where
  spans : Spans left walk.passed.toList right
  nonempty : walk.passed.toList ≠ []
  clips : ∀ stretch ∈ walk.passed.toList, ∃ count kind,
    stretch.segment = grooves.clip origin left right count kind

theorem advance_passed (walk : Walk ℚ) (kind : SegmentKind) (length : ℚ) :
    (walk.advance kind length).passed.toList =
      walk.passed.toList ++
        [⟨⟨kind, walk.x, walk.x + min length walk.rest⟩, min length walk.rest⟩] := by
  simp only [advance, Scalar.minimum_eq, Array.toList_push]

theorem advance_x {walk : Walk ℚ} (kind : SegmentKind) {length : ℚ} (enough : length ≤ walk.rest) :
    (walk.advance kind length).x = walk.x + length := by
  simp only [advance, Scalar.minimum_eq, min_eq_left enough]

theorem advance_rest {walk : Walk ℚ} (kind : SegmentKind) {length : ℚ}
    (enough : length ≤ walk.rest) : (walk.advance kind length).rest = walk.rest - length := by
  simp only [advance, Scalar.minimum_eq, min_eq_left enough]

variable {grooves : Grooves ℚ} {origin left right : ℚ} {walk : Walk ℚ}

def Opens (grooves : Grooves ℚ) (origin left : ℚ) (walk : Walk ℚ) (count : ℤ)
    (kind : SegmentKind) : Prop :=
  walk.x = max left (origin + count * grooves.period + grooves.opens kind)

theorem Follows.opens (follows : walk.Follows grooves origin left right) {count : ℤ}
    {kind : SegmentKind} (place : walk.x = origin + count * grooves.period + grooves.opens kind) :
    walk.Opens grooves origin left count kind := by
  rw [Opens, ← place, max_eq_right follows.spans.le]

theorem Follows.advance_clip (follows : walk.Follows grooves origin left right)
    {kind : SegmentKind} {length : ℚ} (nonneg : 0 ≤ length) {count : ℤ}
    (opened : walk.Opens grooves origin left count kind)
    (closed : walk.x + min length walk.rest =
      min right (origin + count * grooves.period + grooves.closes kind)) :
    (walk.advance kind length).Follows grooves origin left right where
  spans := by
    rw [advance_passed, Walk.advance, Scalar.minimum_eq]
    exact follows.spans.snoc kind (le_min nonneg follows.rest_nonneg)
  ahead := by
    simp only [Walk.advance]
    linarith [follows.ahead]
  rest_nonneg := by
    simp only [Walk.advance, Scalar.minimum_eq, sub_nonneg]
    exact min_le_right _ _
  clips := by
    intro stretch member
    rw [advance_passed] at member
    rcases List.mem_append.mp member with old | new
    · exact follows.clips stretch old
    · refine ⟨count, kind, ?_⟩
      rw [List.mem_singleton.mp new, Grooves.clip, ← opened, ← closed]

theorem Follows.advance (follows : walk.Follows grooves origin left right) {kind : SegmentKind}
    {length : ℚ} (nonneg : 0 ≤ length) {count : ℤ}
    (opened : walk.Opens grooves origin left count kind)
    (closed : walk.x + length = origin + count * grooves.period + grooves.closes kind) :
    (walk.advance kind length).Follows grooves origin left right := by
  refine follows.advance_clip nonneg opened ?_
  rw [← closed, ← follows.ahead, min_add_add_left, min_comm]

theorem Follows.arrive (follows : walk.Follows grooves origin left right) {kind : SegmentKind}
    {count : ℤ} (opened : walk.Opens grooves origin left count kind)
    (closed : walk.x + walk.rest ≤ origin + count * grooves.period + grooves.closes kind) :
    (walk.advance kind walk.rest).Arrives grooves origin left right := by
  have there := follows.advance_clip follows.rest_nonneg opened (by
    rw [min_self, follows.ahead, min_eq_left (follows.ahead ▸ closed)])
  refine ⟨?_, ?_, there.clips⟩
  · rw [← follows.ahead, ← advance_x kind le_rfl]
    exact there.spans
  · rw [advance_passed]
    exact List.append_ne_nil_of_right_ne_nil _ (List.cons_ne_nil _ _)

theorem Follows.periods (regular : grooves.Regular) (whole : Nat) {walk : Walk ℚ}
    (follows : walk.Follows grooves origin left right) (count : ℤ)
    (place : walk.x = origin + count * grooves.period)
    (room : whole * grooves.period ≤ walk.rest) :
    let after := Walk.periods (grooves.period - grooves.width) grooves.width whole walk
    after.Follows grooves origin left right ∧
      after.x = origin + (count + whole : ℤ) * grooves.period ∧
      after.rest = walk.rest - whole * grooves.period := by
  have groove := regular.width
  have fits := regular.fits
  have period := regular.period
  induction whole generalizing walk count with
  | zero => simp [Walk.periods, follows, place]
  | succ whole ih =>
      rw [Nat.cast_succ, add_mul, one_mul] at room
      have others : 0 ≤ (whole : ℚ) * grooves.period := by positivity
      have flatRoom : grooves.period - grooves.width ≤ walk.rest := by linarith
      have flatOpened : walk.Opens grooves origin left count .flat :=
        follows.opens (by rw [place, Grooves.opens, add_zero])
      have flat := follows.advance (sub_nonneg.mpr fits) flatOpened
        (by rw [place, Grooves.closes])
      have flatX := advance_x .flat flatRoom
      have flatRest := advance_rest .flat flatRoom
      have grooveRoom : grooves.width ≤
          (walk.advance .flat (grooves.period - grooves.width)).rest := by
        linarith
      have grooveOpened : Opens grooves origin left
          (walk.advance .flat (grooves.period - grooves.width)) count .groove :=
        flat.opens (by rw [flatX, place, Grooves.opens])
      have both := flat.advance groove grooveOpened (by
        rw [flatX, place, Grooves.closes]
        ring)
      have bothX := advance_x .groove grooveRoom
      have bothRest := advance_rest .groove grooveRoom
      obtain ⟨after, afterX, afterRest⟩ := ih both (count + 1)
        (by push_cast; linarith) (by linarith)
      refine ⟨after, ?_, ?_⟩
      · simp only [Walk.periods]
        rw [afterX]
        push_cast
        ring
      · simp only [Walk.periods]
        rw [afterRest]
        push_cast
        linarith

theorem Follows.tail (regular : grooves.Regular)
    (follows : walk.Follows grooves origin left right) (count : ℤ)
    (place : walk.x = origin + count * grooves.period) (short : walk.rest ≤ grooves.period) :
    let flat := grooves.period - grooves.width
    let walk :=
      if flat < walk.rest then
        let walk := walk.advance .flat flat
        walk.advance .groove walk.rest
      else walk.advance .flat walk.rest
    walk.Arrives grooves origin left right := by
  have fits := regular.fits
  have opened : walk.Opens grooves origin left count .flat :=
    follows.opens (by rw [place, Grooves.opens, add_zero])
  simp only
  split
  · rename_i long
    have flat := follows.advance (sub_nonneg.mpr fits) opened (by rw [place, Grooves.closes])
    have flatX := Walk.advance_x .flat long.le
    have flatRest := Walk.advance_rest .flat long.le
    refine flat.arrive (flat.opens (by rw [flatX, place, Grooves.opens])) ?_
    rw [flatX, flatRest, Grooves.closes]
    linarith
  · rename_i flat
    refine follows.arrive opened ?_
    rw [Grooves.closes]
    linarith [not_lt.mp flat]

theorem Follows.afterFirst (regular : grooves.Regular)
    (follows : walk.Follows grooves origin left right) (count : ℤ)
    (place : walk.x = origin + count * grooves.period) :
    (walk.afterFirst grooves).Arrives grooves origin left right := by
  have period := regular.period
  have ratio : 0 ≤ walk.rest / grooves.period := div_nonneg follows.rest_nonneg period.le
  have room : (⌊walk.rest / grooves.period⌋₊ : ℚ) * grooves.period ≤ walk.rest :=
    (le_div_iff₀ period).mp (Nat.floor_le ratio)
  have last : walk.rest < (⌊walk.rest / grooves.period⌋₊ + 1 : ℚ) * grooves.period :=
    (div_lt_iff₀ period).mp (Nat.lt_floor_add_one _)
  obtain ⟨after, afterX, afterRest⟩ := follows.periods regular _ count place room
  exact after.tail regular _ afterX (afterRest.le.trans (by linarith))

theorem Follows.fromGroove (regular : grooves.Regular)
    (follows : walk.Follows grooves origin left right) {length : ℚ} (nonneg : 0 ≤ length)
    (opened : walk.Opens grooves origin left 0 .groove)
    (place : walk.x + length = origin + grooves.period) :
    (walk.fromGroove grooves length).Arrives grooves origin left right := by
  have close : walk.x + length = origin + (0 : ℤ) * grooves.period + grooves.closes .groove := by
    rw [place, Int.cast_zero, zero_mul, add_zero, Grooves.closes]
  simp only [Walk.fromGroove]
  split
  · rename_i cut
    exact follows.arrive opened (by linarith)
  · rename_i whole
    refine (follows.advance nonneg opened close).afterFirst regular 1 ?_
    rw [advance_x .groove (not_lt.mp whole), Int.cast_one]
    linarith

theorem Follows.fromStart (regular : grooves.Regular)
    (follows : walk.Follows grooves origin left right) {length : ℚ} (nonneg : 0 ≤ length)
    (short : length ≤ grooves.period) (first : walk.x = left)
    (place : walk.x + length = origin + grooves.period) :
    (walk.fromStart grooves length).Arrives grooves origin left right := by
  have groove := regular.width
  simp only [Walk.fromStart]
  split
  · rename_i flat
    have opened : walk.Opens grooves origin left 0 .flat := by
      rw [Opens, first, Grooves.opens, max_eq_left]
      rw [Int.cast_zero]
      linarith
    have close : walk.x + (length - grooves.width) =
        origin + (0 : ℤ) * grooves.period + grooves.closes .flat := by
      rw [Grooves.closes, Int.cast_zero]
      linarith
    split
    · rename_i cut
      exact follows.arrive opened (by linarith)
    · rename_i whole
      have there := follows.advance flat.le opened close
      have thereX := advance_x .flat (not_lt.mp whole)
      refine there.fromGroove regular (by linarith) (there.opens ?_) (by linarith)
      rw [thereX, close, Grooves.closes, Grooves.opens]
  · rename_i inside
    refine follows.fromGroove regular nonneg ?_ place
    rw [Opens, first, Grooves.opens, max_eq_left]
    rw [Int.cast_zero]
    linarith

end Walk

namespace Line

def origin (line : Line ℚ) : ℚ := line.minX - line.skip * line.property.grooves.period

def periodsAt (line : Line ℚ) (x : ℚ) : ℚ :=
  line.skip + (x - line.start.x) / line.property.grooves.period

theorem Level.length_eq {line : Line ℚ} (level : line.Level) :
    line.length = line.maxX - line.minX := by
  have flat : line.finish.position.y - line.start.position.y = 0 := sub_eq_zero.mpr level.symm
  have root : line.length = |line.finish.x - line.start.x| := by
    rw [← Exact.root_mul_self]
    simp only [length, Point.norm, Point.sub, flat, mul_zero, add_zero]
    rfl
  rw [root, maxX_eq, minX_eq, max_sub_min_eq_abs]

theorem length_nonneg (line : Line ℚ) : 0 ≤ line.length := Exact.root_nonneg _

theorem length_le (line : Line ℚ) :
    line.length ≤ line.maxX - line.minX + |line.start.y - line.finish.y| := by
  rw [maxX_eq, minX_eq, max_sub_min_eq_abs, abs_sub_comm line.start.y]
  exact Exact.root_le_legs _ _

/-- A line whose skip fixes where in the pattern it starts. -/
structure Patterned (line : Line ℚ) : Prop where
  regular : line.property.grooves.Regular
  skip_nonneg : 0 ≤ line.skip
  skip_lt_one : line.skip < 1

theorem Sound.patterned {line : Line ℚ} (sound : line.Sound) : line.Patterned :=
  ⟨sound.property.regular, sound.skip_nonneg, sound.skip_lt_one⟩

section Stretches

variable {line : Line ℚ}

theorem walk_reaches (patterned : line.Patterned) :
    let grooves := line.property.grooves
    let start : Walk ℚ := ⟨line.minX, line.length, #[]⟩
    (start.fromStart grooves (grooves.period * (1 - line.skip))).Arrives grooves line.origin
      line.minX (line.minX + line.length) := by
  have period := patterned.regular.period
  have nonneg := patterned.skip_nonneg
  have before := patterned.skip_lt_one
  have follows : Walk.Follows line.property.grooves line.origin line.minX
      (line.minX + line.length) ⟨line.minX, line.length, #[]⟩ := {
    spans := .nil _
    ahead := rfl
    rest_nonneg := line.length_nonneg
    clips := fun stretch impossible => absurd impossible List.not_mem_nil }
  refine follows.fromStart patterned.regular ?_ ?_ rfl ?_
  · exact mul_nonneg period.le (by linarith)
  · exact mul_le_of_le_one_right period.le (by linarith)
  · simp only [origin]
    ring

theorem walk_arrives (patterned : line.Patterned) (level : line.Level) :
    let grooves := line.property.grooves
    let start : Walk ℚ := ⟨line.minX, line.length, #[]⟩
    (start.fromStart grooves (grooves.period * (1 - line.skip))).Arrives grooves line.origin
      line.minX line.maxX := by
  have reaches := walk_reaches patterned
  have right : line.minX + line.length = line.maxX := by
    rw [level.length_eq]
    ring
  rwa [right] at reaches

theorem stretches_spans (patterned : line.Patterned) (level : line.Level) :
    Spans line.minX line.stretches line.maxX :=
  (walk_arrives patterned level).spans

def clip (line : Line ℚ) (count : ℤ) (kind : SegmentKind) : Segment ℚ :=
  line.property.grooves.clip line.origin line.minX line.maxX count kind

theorem stretches_clip (patterned : line.Patterned) (level : line.Level) {stretch : Stretch ℚ}
    (member : stretch ∈ line.stretches) : ∃ count kind, stretch.segment = line.clip count kind :=
  (walk_arrives patterned level).clips stretch member

theorem stretches_fit (patterned : line.Patterned) (level : line.Level) {stretch : Stretch ℚ}
    (member : stretch ∈ line.stretches) :
    stretch.segment.Fits line.property.grooves line.origin := by
  obtain ⟨count, kind, shown⟩ := stretches_clip patterned level member
  rw [shown]
  exact Grooves.clip_fits _ _ _ _ count kind

theorem stretches_cover (patterned : line.Patterned) (level : line.Level) {x : ℚ}
    (above : line.minX ≤ x) (below : x ≤ line.maxX) :
    ∃ stretch ∈ line.stretches, stretch.segment.start ≤ x ∧ x ≤ stretch.segment.finish :=
  (stretches_spans patterned level).covers (walk_arrives patterned level).nonempty above below

theorem mem_segments {segment : Segment ℚ} :
    segment ∈ line.segments ↔
      ∃ stretch ∈ line.stretches,
        Scalar.tolerance < stretch.length ∧ stretch.segment = segment := by
  simp [segments, Stretch.isDrawn, and_assoc]

theorem segments_within (patterned : line.Patterned) (level : line.Level) {segment : Segment ℚ}
    (member : segment ∈ line.segments) :
    line.minX ≤ segment.start ∧ segment.finish ≤ line.maxX := by
  obtain ⟨stretch, passed, _, rfl⟩ := mem_segments.mp member
  exact (stretches_spans patterned level).within passed

end Stretches

end Line

end Waveguide
