import Mathlib
import Waveguide.Proofs.Conservation
import Waveguide.Proofs.Layers

/-!
Settling does not change what is drawn: near its axis, the pieces of a line show the media that the
whole line would have shown, but for segments too short to be drawn. The pieces continue the pattern
of the line as long as no skip had to be rounded.
-/

namespace Waveguide

def Unsnapped (skip : ℚ) : Prop :=
  Int.fract skip = 0 ∨ Scalar.tolerance ≤ Int.fract skip ∧ Int.fract skip ≤ 1 - Scalar.tolerance

theorem Unsnapped.normalizeSkip_eq {skip : ℚ} (unsnapped : Unsnapped skip) :
    normalizeSkip skip = Int.fract skip := by
  rw [Waveguide.normalizeSkip_eq]
  split
  · rename_i snapped
    rcases unsnapped with whole | ⟨above, below⟩
    · exact whole.symm
    · rcases snapped with low | high
      · exact absurd above (not_le.mpr low)
      · exact absurd below (not_le.mpr high)
  · rfl

namespace Line

def Continues (line : Line ℚ) (x : ℚ) : Prop := Unsnapped (line.skipAt x)

instance (line : Line ℚ) (x : ℚ) : Decidable (line.Continues x) :=
  inferInstanceAs (Decidable (_ ∨ _ ∧ _))

theorem skipAt_eq {line : Line ℚ} (period : 0 < line.property.grooves.period) (x : ℚ) :
    ∃ count : ℤ, line.skipAt x = line.periodsAt x + count := by
  have past : (x - line.start.x - line.property.grooves.period * (1 - line.skip)) /
      line.property.grooves.period = line.periodsAt x - 1 := by
    rw [periodsAt]
    field_simp
    ring
  simp only [skipAt]
  split
  · refine ⟨0, ?_⟩
    rw [past, Int.cast_zero]
    ring
  · rw [Scalar.cyclicRemainder_eq _ period, past, mul_div_cancel_left₀ _ period.ne', Int.fract]
    refine ⟨-1 - ⌊line.periodsAt x - 1⌋, ?_⟩
    push_cast
    ring

structure InPhase (original piece : Line ℚ) : Prop where
  property : piece.property = original.property
  shift : ∃ count : ℤ, piece.origin = original.origin + count * original.property.grooves.period

namespace InPhase

variable {original line : Line ℚ} {x : ℚ}

theorem refl (original : Line ℚ) : original.InPhase original :=
  ⟨rfl, 0, by rw [Int.cast_zero, zero_mul, add_zero]⟩

theorem leftPart (phase : original.InPhase line) (inside : line.start.x < x ∧ x < line.finish.x) :
    original.InPhase (line.leftPart x) where
  property := phase.property
  shift := by
    have same : (line.leftPart x).origin = line.origin := by
      rw [origin, origin, minX_of_le (inside.1.trans inside.2).le]
      exact congrArg (· - line.skip * line.property.grooves.period) (minX_of_le inside.1.le)
    rw [same]
    exact phase.shift

theorem rightPart (phase : original.InPhase line) (valid : line.property.Valid)
    (inside : line.start.x < x ∧ x < line.finish.x) (continues : line.Continues x) (parent : Nat) :
    original.InPhase (line.rightPart x parent) where
  property := phase.property
  shift := by
    have period := valid.period
    obtain ⟨before, shifted⟩ := phase.shift
    obtain ⟨count, skip⟩ := skipAt_eq period x
    have left : (line.rightPart x parent).minX = x := minX_of_le inside.2.le
    have pattern : (line.rightPart x parent).property = line.property := rfl
    have rest : (line.rightPart x parent).skip = Int.fract (line.skipAt x) :=
      continues.normalizeSkip_eq
    have scaled : line.skipAt x * line.property.grooves.period =
        line.skip * line.property.grooves.period + (x - line.start.x) +
          count * line.property.grooves.period := by
      rw [skip, periodsAt]
      field_simp
    rw [origin, minX_of_le (inside.1.trans inside.2).le, ← phase.property] at shifted
    refine ⟨before - count + ⌊line.skipAt x⌋, ?_⟩
    rw [origin, left, rest, pattern, Int.fract, ← phase.property]
    push_cast
    linear_combination shifted - scaled

end InPhase

def Drops (line : Line ℚ) (x : ℚ) : Prop :=
  ∃ stretch ∈ line.stretches, stretch.isDrawn = false ∧ stretch.length ≤ Scalar.tolerance ∧
    stretch.segment.start ≤ x ∧ x ≤ stretch.segment.finish

theorem covers_or_drops {line : Line ℚ} {point : Point ℚ} (sound : line.Sound)
    (level : line.Level) (along : line.minX ≤ point.x ∧ point.x ≤ line.maxX)
    (near : |point.y - line.y| ≤ line.property.reach) :
    (∃ block ∈ line.blocks, block.Covers point) ∨ line.Drops point.x := by
  obtain ⟨stretch, passed, here⟩ := stretches_cover sound.patterned level along.1 along.2
  by_cases drawn : Scalar.tolerance < stretch.length
  · left
    obtain ⟨block, layer, covers⟩ := layers_cover sound here near
    have listed : stretch.segment ∈ line.segments := mem_segments.mpr ⟨stretch, passed, drawn, rfl⟩
    exact ⟨block, mem_blocks.mpr ⟨stretch.segment, listed, layer⟩, covers⟩
  · right
    exact ⟨stretch, passed, by simpa [Stretch.isDrawn] using drawn, not_lt.mp drawn, here⟩

theorem InPhase.medium_eq {original piece : Line ℚ} {point : Point ℚ} {block other : Block ℚ}
    (phase : original.InPhase piece) (sound : original.Sound) (pieceSound : piece.Sound)
    (level : original.Level) (pieceLevel : piece.Level) (height : piece.y = original.y)
    (drawn : block ∈ original.blocks) (inside : block.Interior point)
    (pieceDrawn : other ∈ piece.blocks) (pieceInside : other.Interior point) :
    block.medium = other.medium := by
  obtain ⟨segment, listed, layer⟩ := mem_blocks.mp drawn
  obtain ⟨part, partListed, partLayer⟩ := mem_blocks.mp pieceDrawn
  obtain ⟨left, right, _⟩ := layers_extent sound layer
  obtain ⟨partLeft, partRight, _⟩ := layers_extent pieceSound partLayer
  obtain ⟨count, shifted⟩ := phase.shift
  have fits : segment.Fits original.property.grooves original.origin := by
    obtain ⟨stretch, passed, _, rfl⟩ := mem_segments.mp listed
    exact stretches_fit sound.patterned level passed
  have partFits : part.Fits original.property.grooves original.origin := by
    obtain ⟨stretch, passed, _, rfl⟩ := mem_segments.mp partListed
    have here := (stretches_fit pieceSound.patterned pieceLevel passed).shift (-count)
    rw [phase.property, shifted, Int.cast_neg, neg_mul, add_neg_cancel_right] at here
    exact here
  have same : segment.kind = part.kind :=
    fits.kind_eq sound.property.regular partFits (left ▸ right ▸ inside.1)
      (partLeft ▸ partRight ▸ pieceInside.1)
  rw [layers_medium sound layer inside.2, layers_medium pieceSound partLayer pieceInside.2,
    phase.property, height, Segment.channel_eq same]

end Line

namespace Layout

/-- What the pieces of a line show at a point, compared with the whole line. -/
structure SameDrawing (layout : Layout ℚ) (root : Nat) (original : Line ℚ) (point : Point ℚ) :
    Prop where
  medium : ∀ block ∈ original.blocks, block.Interior point → ∀ piece, layout.IsPiece root piece →
    ∀ other ∈ piece.blocks, other.Interior point → block.medium = other.medium
  shown : ∀ block ∈ original.blocks, block.Interior point →
    (∀ piece, layout.IsPiece root piece → ∀ other ∈ piece.blocks, ¬ other.Covers point) →
    ∃ piece, layout.IsPiece root piece ∧ piece.Drops point.x
  added : ∀ piece, layout.IsPiece root piece → ∀ block ∈ piece.blocks, block.Interior point →
    (∀ other ∈ original.blocks, ¬ other.Covers point) → original.Drops point.x

theorem SettlingWith.inPhase {layout state : Layout ℚ} {cuts : Nat}
    (run : SettlingWith Line.Continues layout cuts state) (declared : layout.Declared)
    {root : Nat} {original piece : Line ℚ} (found : layout.line? root = some original)
    (isPiece : state.IsPiece root piece) : original.InPhase piece := by
  refine run.pieces_keep declared found (.refl original) ?_ ?_ ?_ piece isPiece
  · intro line x parent sound inside continues phase
    exact ⟨phase.leftPart inside, phase.rightPart sound.property inside continues parent⟩
  · exact fun _ _ phase => ⟨phase.property, phase.shift⟩
  · exact fun _ _ phase => ⟨phase.property, phase.shift⟩

theorem SettlingWith.piece_y {layout state : Layout ℚ} {cuts : Nat} {admits : Line ℚ → ℚ → Prop}
    (run : SettlingWith admits layout cuts state) (declared : layout.Declared)
    (level : layout.All Line.Level) {root : Nat} {original piece : Line ℚ}
    (found : layout.line? root = some original) (isPiece : state.IsPiece root piece) :
    piece.y = original.y := by
  rcases (run.pieceOf declared found isPiece).y with atStart | atFinish
  · exact atStart
  · exact atFinish.trans (level root original found).symm

/-- As long as no skip is rounded, settling does not change what is drawn within the reach of a
horizontal line. -/
theorem settling_preserves_drawing {layout state : Layout ℚ} {cuts root : Nat}
    {original : Line ℚ} {point : Point ℚ} (built : layout.Built)
    (level : layout.All Line.Level) (run : SettlingWith Line.Continues layout cuts state)
    (found : layout.line? root = some original)
    (along : original.minX ≤ point.x ∧ point.x ≤ original.maxX)
    (near : |point.y - original.y| <
      original.property.width / 2 + original.property.grooves.depth) :
    state.SameDrawing root original point := by
  have declared := built.declared
  have sound := declared.allSound
  have originalSound := sound root original found
  have originalLevel := level root original found
  refine ⟨?_, ?_, ?_⟩
  · intro block drawn inside piece isPiece other pieceDrawn pieceInside
    have height := run.piece_y declared level found isPiece
    have phase := run.inPhase declared found isPiece
    obtain ⟨handle, place, _⟩ := isPiece
    exact phase.medium_eq originalSound (run.sound sound handle piece place) originalLevel
      (run.level level handle piece place) height drawn inside pieceDrawn pieceInside
  · intro block _ _ uncovered
    obtain ⟨pieces, dissection⟩ := run.dissection declared found
    obtain ⟨⟨handle, piece⟩, member, here⟩ := (dissection.joined.tiling.range point.x).mp along
    have placed := (dissection.members (handle, piece)).mp member
    have isPiece : state.IsPiece root piece := ⟨handle, placed⟩
    have pieceNear : |point.y - piece.y| ≤ piece.property.reach := by
      rw [run.piece_y declared level found isPiece, (run.inPhase declared found isPiece).property]
      exact near.le
    refine ⟨piece, isPiece, ?_⟩
    rcases Line.covers_or_drops (run.sound sound handle piece placed.1)
        (run.level level handle piece placed.1) here pieceNear with
      ⟨other, pieceDrawn, covers⟩ | drops
    · exact absurd covers (uncovered piece isPiece other pieceDrawn)
    · exact drops
  · intro piece _ block _ _ uncovered
    rcases Line.covers_or_drops originalSound originalLevel along near.le with
      ⟨other, drawn, covers⟩ | drops
    · exact absurd covers (uncovered other drawn)
    · exact drops

def cutContinues (layout : Layout ℚ) : Bool :=
  match layout.nextChange with
  | .ok (some (.cut handle x)) => (layout.line? handle).all fun line => decide (line.Continues x)
  | _ => true

def continuesWithin : Nat → Layout ℚ → Bool
  | 0, _ => true
  | scans + 1, layout =>
      layout.cutContinues &&
        match layout.scan with
        | .cut next => continuesWithin scans next
        | .split next => continuesWithin scans next
        | _ => true

theorem settleWithin_continues {start : Layout ℚ} (sound : start.All Line.Sound) :
    ∀ {scans cuts : Nat} {state : Layout ℚ}, SettlingWith Line.Continues start cuts state →
      state.continuesWithin scans = true →
      ∃ total, SettlingWith Line.Continues start total (settleWithin scans cuts state).1 := by
  intro scans
  induction scans with
  | zero => exact fun run _ => ⟨_, run⟩
  | succ scans ih =>
      intro cuts state run checked
      rw [continuesWithin, Bool.and_eq_true] at checked
      obtain ⟨here, later⟩ := checked
      rw [settleWithin]
      rcases scan_cases (run.sound sound) with
        ⟨_, result⟩ | ⟨failure, _, result⟩ |
        ⟨handle, x, line, asked, step, done, result⟩ |
        ⟨upper, lower, distance, up, low, asked, _, done, result⟩
      · rw [result]
        exact ⟨cuts, run⟩
      · rw [result]
        exact ⟨cuts, run⟩
      · rw [result] at later ⊢
        have continues : line.Continues x := by
          simpa [cutContinues, asked, step.found] using here
        exact ih (.cut run asked step.found continues done) later
      · rw [result] at later ⊢
        rw [← done] at later ⊢
        exact ih (.split run asked) later

def staggeredLayout : Layout ℚ :=
  ofLines [.between sampleGuide ⟨0, 0⟩ ⟨30, 0⟩, .between sampleGuide ⟨13, 7⟩ ⟨53, 7⟩]

theorem staggeredLayout_drawing :
    ∃ cuts original,
      (staggeredLayout.Built ∧ staggeredLayout.All Line.Level ∧
        SettlingWith Line.Continues staggeredLayout cuts staggeredLayout.settle.1 ∧
        staggeredLayout.line? 0 = some original ∧
        (original.minX ≤ 20 ∧ 20 ≤ original.maxX) ∧
        |1 - original.y| < original.property.width / 2 + original.property.grooves.depth) ∧
      staggeredLayout.settle.2.toOption = some 2 ∧
      staggeredLayout.settle.1.SameDrawing 0 original ⟨20, 1⟩ := by
  have built : staggeredLayout.Built := built_ofLines _
  have level : staggeredLayout.All Line.Level := all_iff.mpr (by decide +kernel)
  obtain ⟨cuts, run⟩ := settleWithin_continues built.declared.allSound .start
    (by decide +kernel : staggeredLayout.continuesWithin staggeredLayout.scanLimit = true)
  obtain ⟨original, found⟩ := Option.isSome_iff_exists.mp
    (by decide +kernel : (staggeredLayout.line? 0).isSome = true)
  have place : ∀ line ∈ staggeredLayout.line? 0, (line.minX ≤ 20 ∧ 20 ≤ line.maxX) ∧
      |1 - line.y| < line.property.width / 2 + line.property.grooves.depth := by
    decide +kernel
  obtain ⟨along, near⟩ := place original found
  exact ⟨cuts, original, ⟨built, level, run, found, along, near⟩, by decide +kernel,
    settling_preserves_drawing built level run found along near⟩

end Layout

end Waveguide
