import Mathlib
import Waveguide.Proofs.Potential

/-!
Settling comes to an end. Between two cuts there are only so many splits, and there are only so many
cuts, so the bound on the number of scans is never reached: the loop ends with a scan that asks for
nothing, or on two lines that are too close.
-/

namespace Waveguide.Layout

inductive Ended (start : Layout ℚ) : Layout ℚ × Except (Failure ℚ) Nat → Prop
  | settled {cuts state} : Settling start cuts state → state.nextChange = .ok none →
      Ended start (state, .ok cuts)
  | failed {cuts state failure} : Settling start cuts state →
      state.nextChange = .error failure → Ended start (state, .error failure)

def mostLines (start : Layout ℚ) : Nat :=
  start.lines.length + 2 * start.lines.length * start.lines.length

def splitsWithin (sum : ℚ) : Nat := ⌊sum / Scalar.tolerance⌋₊

def mostSplits (start : Layout ℚ) : Nat :=
  splitsWithin (2 * start.mostLines * start.total Line.soft)

theorem splitsWithin_mono {small large : ℚ} (le : small ≤ large) :
    splitsWithin small ≤ splitsWithin large :=
  Nat.floor_le_floor (div_le_div_of_nonneg_right le Scalar.tolerance_pos.le)

theorem splitsWithin_lt {small large : ℚ} (nonneg : 0 ≤ small)
    (lt : small + Scalar.tolerance < large) : splitsWithin small < splitsWithin large := by
  have positive := Scalar.tolerance_pos
  have step : small / Scalar.tolerance + 1 ≤ large / Scalar.tolerance := by
    rw [div_add_one positive.ne', div_le_div_iff_of_pos_right positive]
    exact lt.le
  have floored := Nat.floor_le_floor step
  rw [Nat.floor_add_one (div_nonneg nonneg positive.le)] at floored
  exact floored

theorem softClearance_eq (layout : Layout ℚ) :
    softClearance layout.lines = layout.total Line.soft := by
  have shifted : ∀ (lines : List (Nat × Line ℚ)) (sum : ℚ),
      lines.foldl
          (fun sum line => sum + (line.2.clearance.softUp + line.2.clearance.softDown)) sum =
        sum + (lines.map fun entry => entry.2.soft).sum := by
    intro lines
    induction lines with
    | nil => simp
    | cons line lines ih =>
        intro sum
        rw [List.foldl_cons, ih, List.map_cons, List.sum_cons, Line.soft, add_assoc]
  have summed := shifted layout.lines 0
  rw [zero_add] at summed
  exact summed

theorem scanLimit_eq (start : Layout ℚ) :
    start.scanLimit =
      (2 * start.lines.length * start.lines.length + 1) *
        (start.mostSplits + start.mostLines * start.mostLines + 2) + 1 := by
  have two : (2.0 : ℚ) = 2 := by norm_num
  simp only [scanLimit, Scalar.ofCount_eq, softClearance_eq, two]
  rfl

theorem total_soft_nonneg {layout : Layout ℚ} (sound : layout.All Line.Sound) :
    0 ≤ layout.total Line.soft := by
  apply total_nonneg
  intro handle line found
  exact (sound handle line found).soft_nonneg

theorem Progress.splits_le {start state : Layout ℚ} {cuts : Nat}
    (progress : Progress start cuts state) (sound : start.All Line.Sound) :
    splitsWithin (state.total Line.soft) ≤ start.mostSplits := by
  apply splitsWithin_mono
  have nonneg := total_soft_nonneg sound
  have within : state.total Line.soft ≤
      state.lines.length • (2 * start.total Line.soft) := by
    apply total_le
    intro handle line found
    exact (progress.soft handle line found).soft_le
  have few : state.lines.length ≤ start.mostLines := by
    have count := progress.count
    have opened := progress.openings
    have bound := start.total_openings_le
    have fewer : 2 * start.lines.length * (start.lines.length - 1) ≤
        2 * start.lines.length * start.lines.length :=
      Nat.mul_le_mul_left _ (Nat.sub_le _ 1)
    unfold mostLines
    omega
  have cast : (state.lines.length : ℚ) ≤ start.mostLines := by exact_mod_cast few
  calc state.total Line.soft ≤ state.lines.length • (2 * start.total Line.soft) := within
    _ = state.lines.length * (2 * start.total Line.soft) := nsmul_eq_mul _ _
    _ ≤ start.mostLines * (2 * start.total Line.soft) :=
      mul_le_mul_of_nonneg_right cast (by linarith)
    _ = 2 * start.mostLines * start.total Line.soft := by ring

theorem settleWithin_ended {start : Layout ℚ} (sound : start.All Line.Sound) :
    ∀ {scans cuts : Nat} {state : Layout ℚ}, Settling start cuts state →
      state.total (Line.openings start.edges) * (start.mostSplits + 1) +
        splitsWithin (state.total Line.soft) < scans →
      Ended start (settleWithin scans cuts state) := by
  intro scans
  induction scans with
  | zero => intro cuts state _ impossible; omega
  | succ scans ih =>
      intro cuts state run enough
      have progress := run.progress sound
      have stateSound := run.sound sound
      rw [settleWithin]
      rcases scan_cases stateSound with
        ⟨asked, result⟩ | ⟨failure, asked, result⟩ |
        ⟨handle, x, line, asked, step, done, result⟩ |
        ⟨upper, lower, distance, up, low, asked, step, done, result⟩
      · rw [result]
        exact .settled run asked
      · rw [result]
        exact .failed run asked
      -- A cut takes an opening away, and with it more than all splits that may follow it.
      · rw [result]
        obtain ⟨fewer, next⟩ := progress.afterCut stateSound step
        refine ih (.cut run asked step.found trivial done) ?_
        have splits := next.splits_le sound
        have used := Nat.mul_le_mul_right (start.mostSplits + 1) fewer
        rw [Nat.add_mul] at used
        omega
      · rw [result]
        obtain ⟨taken, same, _⟩ := progress.afterSplit stateSound step
        rw [← done] at taken same ⊢
        have after : Settling start cuts (state.splitPadding upper lower distance) :=
          .split run asked
        refine ih after ?_
        have splits := splitsWithin_lt (total_soft_nonneg (after.sound sound)) taken
        rw [same]
        omega

theorem scanLimit_enough {start : Layout ℚ} (sound : start.All Line.Sound) :
    start.total (Line.openings start.edges) * (start.mostSplits + 1) +
      splitsWithin (start.total Line.soft) < start.scanLimit := by
  have splits := (Progress.initial sound).splits_le sound
  have opened : start.total (Line.openings start.edges) ≤
      2 * start.lines.length * start.lines.length :=
    start.total_openings_le.trans (Nat.mul_le_mul_left _ (Nat.sub_le _ 1))
  have used := Nat.mul_le_mul_right (start.mostSplits + 1) opened
  have spare : (2 * start.lines.length * start.lines.length + 1) * (start.mostSplits + 1) ≤
      (2 * start.lines.length * start.lines.length + 1) *
        (start.mostSplits + start.mostLines * start.mostLines + 2) :=
    Nat.mul_le_mul_left _ (by omega)
  rw [Nat.add_mul, Nat.one_mul] at spare
  rw [scanLimit_eq]
  omega

theorem settleWithin_ended_of_le {start : Layout ℚ} (sound : start.All Line.Sound) {scans : Nat}
    (enough : start.scanLimit ≤ scans) : Ended start (settleWithin scans 0 start) :=
  settleWithin_ended sound .start (lt_of_lt_of_le (scanLimit_enough sound) enough)

theorem settle_ended {start : Layout ℚ} (sound : start.All Line.Sound) :
    Ended start start.settle :=
  settleWithin_ended_of_le sound le_rfl

theorem Ended.outcome {start : Layout ℚ} {result : Layout ℚ × Except (Failure ℚ) Nat}
    (ended : Ended start result) :
    ∃ cuts, Settling start cuts result.1 ∧
      (result.2 = .ok cuts ∨ ∃ upper lower, result.2 = .error (.strongConflict upper lower)) := by
  cases ended with
  | settled run _ => exact ⟨_, run, Or.inl rfl⟩
  | failed run asked =>
      obtain ⟨upper, lower, rfl⟩ := nextChange_error asked
      exact ⟨_, run, Or.inr ⟨upper, lower, rfl⟩⟩

theorem settleWithin_add (scans extra cuts : Nat) (layout : Layout ℚ)
    (ended : (settleWithin scans cuts layout).2 ≠ .error .unsettled) :
    settleWithin (scans + extra) cuts layout = settleWithin scans cuts layout := by
  induction scans generalizing cuts layout with
  | zero => exact absurd rfl ended
  | succ scans ih =>
      rw [Nat.add_right_comm, settleWithin, settleWithin]
      rw [settleWithin] at ended
      cases result : layout.scan with
      | settled => rfl
      | failed failure => rfl
      | cut next => exact ih (cuts + 1) next (by simpa [result] using ended)
      | split next => exact ih cuts next (by simpa [result] using ended)

theorem settleWithin_reaches {start state : Layout ℚ} {cuts : Nat}
    (run : Settling start cuts state) :
    ∃ steps, ∀ scans, settleWithin (scans + steps) 0 start = settleWithin scans cuts state := by
  induction run with
  | start => exact ⟨0, fun _ => rfl⟩
  | @cut cuts layout handle x line next _ asked _ _ done ih =>
      obtain ⟨steps, same⟩ := ih
      have scanned : layout.scan = .cut next := by simp only [scan, asked, done]
      refine ⟨steps + 1, ?_⟩
      intro scans
      rw [← Nat.add_assoc, Nat.add_right_comm, same, settleWithin, scanned]
  | @split cuts layout upper lower distance _ asked ih =>
      obtain ⟨steps, same⟩ := ih
      have scanned : layout.scan = .split (layout.splitPadding upper lower distance) := by
        simp only [scan, asked]
      refine ⟨steps + 1, ?_⟩
      intro scans
      rw [← Nat.add_assoc, Nat.add_right_comm, same, settleWithin, scanned]

theorem Ended.ne_unsettled {start : Layout ℚ} {result : Layout ℚ × Except (Failure ℚ) Nat}
    (ended : Ended start result) : result.2 ≠ .error .unsettled := by
  obtain ⟨cuts, _, done | ⟨upper, lower, failed⟩⟩ := ended.outcome
  · simp [done]
  · simp [failed]

theorem Ended.eq_settle {start : Layout ℚ} {result : Layout ℚ × Except (Failure ℚ) Nat}
    (sound : start.All Line.Sound) (ended : Ended start result) : result = start.settle := by
  have enough : ∀ steps, settleWithin (start.scanLimit + steps) 0 start = start.settle :=
    fun steps => settleWithin_add _ steps 0 start (settle_ended sound).ne_unsettled
  cases ended with
  | @settled cuts state run quiet =>
      obtain ⟨steps, same⟩ := settleWithin_reaches run
      have scanned : state.scan = .settled := by simp only [scan, quiet]
      rw [← enough (1 + steps), ← Nat.add_assoc, same, settleWithin, scanned]
  | @failed cuts state failure run loud =>
      obtain ⟨steps, same⟩ := settleWithin_reaches run
      have scanned : state.scan = .failed failure := by simp only [scan, loud]
      rw [← enough (1 + steps), ← Nat.add_assoc, same, settleWithin, scanned]

/-- What is promised of the loop that settles a layout. -/
structure SettlingEnds (layout : Layout ℚ) : Prop where
  finite : ∃ bound, ∀ scans, bound ≤ scans → settleWithin scans 0 layout = layout.settle
  outcome : (∃ cuts, layout.settle.2 = .ok cuts) ∨
    ∃ upper lower, layout.settle.2 = .error (.strongConflict upper lower)
  reached : ∃ cuts, Settling layout cuts layout.settle.1
  cuts : ∀ cuts state, Settling layout cuts state →
    cuts ≤ 2 * layout.lines.length * (layout.lines.length - 1)
  inside : ∀ cuts state handle x, Settling layout cuts state →
    state.nextChange = .ok (some (.cut handle x)) →
    ∃ line, state.line? handle = some line ∧ line.minX < x ∧ x < line.maxX ∧
      Scalar.tolerance < line.maxX - line.minX ∧
      (∃ left fragment, line.cut x handle = .ok (left, fragment)) ∧
      ∃ next, state.cutLine handle x = .ok (some next)

/-- Settling any layout that can be built ends, with a bounded number of cuts. -/
theorem settle_terminates {layout : Layout ℚ} (built : layout.Built) :
    layout.SettlingEnds := by
  have sound := built.declared.allSound
  obtain ⟨total, reached, outcome⟩ := (settle_ended sound).outcome
  refine ⟨⟨layout.scanLimit, ?_⟩, ?_, ⟨total, reached⟩, ?_, ?_⟩
  · intro scans enough
    obtain ⟨extra, rfl⟩ := Nat.exists_eq_add_of_le enough
    apply settleWithin_add
    change layout.settle.2 ≠ _
    rcases outcome with done | ⟨upper, lower, failed⟩
    · simp [done]
    · simp [failed]
  · exact outcome.imp_left fun done => ⟨total, done⟩
  · intro cuts state run
    have opened := (run.progress sound).openings
    have bound := layout.total_openings_le
    omega
  · intro cuts state handle x run asked
    obtain ⟨line, step⟩ := nextChange_cutStep asked
    obtain ⟨other, _, overhang⟩ := step.overhang
    have inside := step.inside (run.sound sound handle line step.found)
    have parts := Line.cut_of_le (inside.1.trans inside.2).le x handle
    refine ⟨line, step.found, overhang.left, overhang.right, overhang.long, ⟨_, _, parts⟩, ?_⟩
    simp only [cutLine, step.found, parts]
    exact ⟨_, rfl⟩

def unevenLayout : Layout ℚ :=
  ofLines [
    .between sampleGuide ⟨0, 0⟩ ⟨30, 0⟩,
    .between sampleGuide ⟨10, 7⟩ ⟨50, 7 + 1 / 2000000⟩,
    .between sampleGuide ⟨20, 40⟩ ⟨20, 40⟩,
    .between sampleGuide ⟨5, 80⟩ ⟨5 - 1 / 2000000, 80⟩]

theorem unevenLayout_settles :
    unevenLayout.Built ∧ unevenLayout.lines.length = 4 ∧
      unevenLayout.settle.2.toOption = some 2 ∧ unevenLayout.SettlingEnds :=
  ⟨built_ofLines _, by decide +kernel, by decide +kernel, settle_terminates (built_ofLines _)⟩

end Waveguide.Layout
