import Mathlib
import Waveguide.Proofs.Subdivision
import Waveguide.Proofs.Termination

/-!
When settling fails: on the layouts that hold two lines closer than their hard clearances from the
start, and on no others. Neither a cut nor a split makes two lines collide or ends a collision, for
where two lines share part of their x-range, some of their pieces still do.
-/

namespace Waveguide

/-- What decides whether a line collides with another one. -/
structure Outline where
  left : ℚ
  right : ℚ
  y : ℚ
  reach : ℚ
  deriving DecidableEq

namespace Outline

structure Collides (a b : Outline) : Prop where
  left : b.left < a.right
  right : a.left < b.right
  close : |a.y - b.y| < a.reach + b.reach

def Apart (a b : Outline) : Prop := ¬ a.Collides b

theorem Collides.symm {a b : Outline} (collides : a.Collides b) : b.Collides a where
  left := collides.right
  right := collides.left
  close := by
    rw [abs_sub_comm, add_comm]
    exact collides.close

theorem Apart.symm {a b : Outline} (apart : a.Apart b) : b.Apart a :=
  fun collides => apart collides.symm

theorem halves_apart (outline : Outline) (x : ℚ) :
    Apart { outline with right := x } { outline with left := x } :=
  fun collides => lt_irrefl x collides.left

theorem halves_apart_iff {outline other : Outline} {x : ℚ}
    (inside : outline.left < x ∧ x < outline.right) (long : other.left < other.right) :
    Apart { outline with right := x } other ∧ Apart { outline with left := x } other ↔
      Apart outline other := by
  constructor
  · rintro ⟨leftApart, rightApart⟩ collides
    rcases lt_or_ge other.left x with before | behind
    · exact leftApart ⟨before, collides.right, collides.close⟩
    · exact rightApart ⟨collides.left, behind.trans_lt long, collides.close⟩
  · intro apart
    refine ⟨?_, ?_⟩
    · intro collides
      exact apart ⟨collides.left.trans inside.2, collides.right, collides.close⟩
    · intro collides
      exact apart ⟨collides.left, inside.1.trans collides.right, collides.close⟩

end Outline

namespace Line

def outline (line : Line ℚ) : Outline := ⟨line.minX, line.maxX, line.y, line.property.reach⟩

theorem outline_leftPart {line : Line ℚ} {x : ℚ}
    (inside : line.start.x < x ∧ x < line.finish.x) :
    (line.leftPart x).outline = { line.outline with right := x } := by
  simp only [outline, minX_leftPart inside, maxX_leftPart inside]
  rfl

theorem outline_rightPart {line : Line ℚ} {x : ℚ} (level : line.Level)
    (inside : line.start.x < x ∧ x < line.finish.x) (parent : Nat) :
    (line.rightPart x parent).outline = { line.outline with left := x } := by
  have height : (line.rightPart x parent).y = line.y := level.symm
  simp only [outline, minX_rightPart inside, maxX_rightPart inside, height]
  rfl

end Line

structure Clash (up low : Line ℚ) : Prop where
  together : up.disjoint low = false
  close : up.y - low.y < low.clearance.up + up.clearance.down

theorem clash_iff_collides {upper lower : Nat × Line ℚ} (above : Over upper lower)
    (upSound : upper.2.Sound) (lowSound : lower.2.Sound) :
    Clash upper.2 lower.2 ↔ upper.2.outline.Collides lower.2.outline := by
  have order : lower.2.y ≤ upper.2.y := above.elim le_of_lt fun level => level.1.le
  have distance : |upper.2.outline.y - lower.2.outline.y| = upper.2.y - lower.2.y :=
    abs_of_nonneg (sub_nonneg.mpr order)
  have reach : lower.2.clearance.up + upper.2.clearance.down =
      upper.2.outline.reach + lower.2.outline.reach := by
    rw [lowSound.up, upSound.down, add_comm]
    rfl
  constructor
  · rintro ⟨together, close⟩
    obtain ⟨left, right⟩ := (Line.disjoint_eq_false_iff _ _).mp together
    exact ⟨left, right, by rwa [distance, ← reach]⟩
  · rintro ⟨left, right, close⟩
    exact ⟨(Line.disjoint_eq_false_iff _ _).mpr ⟨left, right⟩, by rwa [distance, ← reach] at close⟩

theorem stackChange_failed {upper lower : Nat × Line ℚ} {failure : Failure ℚ}
    (found : stackChange upper lower = .error failure) : Clash upper.2 lower.2 := by
  simp only [stackChange] at found
  split at found
  · contradiction
  · rename_i together
    split at found
    · rename_i close
      exact ⟨Bool.not_eq_true _ ▸ together, close⟩
    · split at found <;> contradiction

namespace Layout

/-- Two lines of the layout are too close for their blocks. -/
def Blocked (layout : Layout ℚ) : Prop :=
  ∃ upper ∈ layout.lines, ∃ lower ∈ layout.lines, Over upper lower ∧ Clash upper.2 lower.2

def outlines (layout : Layout ℚ) : List Outline := layout.lines.map fun entry => entry.2.outline

def Spread (layout : Layout ℚ) : Prop := layout.outlines.Pairwise Outline.Apart

theorem spread_iff {layout : Layout ℚ} :
    layout.Spread ↔ ∀ a ∈ layout.lines, ∀ b ∈ layout.lines, a.1 ≠ b.1 →
      a.2.outline.Apart b.2.outline := by
  have distinct : layout.lines.Nodup :=
    layout.lines_ordered.imp fun earlier same => earlier.ne (congrArg Prod.fst same)
  have symmetric : Std.Symm fun a b : Nat × Line ℚ => a.2.outline.Apart b.2.outline :=
    ⟨fun _ _ apart => apart.symm⟩
  unfold Spread outlines
  rw [List.pairwise_map]
  constructor
  · intro apart a first b second different
    exact apart.forall first second fun same => different (congrArg Prod.fst same)
  · intro apart
    refine distinct.pairwise_of_forall_ne ?_
    intro a first b second different
    exact apart a first b second fun same => different (lines_inj first second same)

theorem blocked_iff_not_spread {layout : Layout ℚ} (sound : layout.All Line.Sound) :
    layout.Blocked ↔ ¬ layout.Spread := by
  have listed : ∀ entry ∈ layout.lines, entry.2.Sound := all_iff.mp sound
  rw [spread_iff]
  constructor
  · rintro ⟨upper, upperListed, lower, lowerListed, above, clash⟩ spread
    have different : upper.1 ≠ lower.1 := by
      intro same
      obtain rfl := lines_inj upperListed lowerListed same
      exact above.asymm above
    exact spread upper upperListed lower lowerListed different
      ((clash_iff_collides above (listed _ upperListed) (listed _ lowerListed)).mp clash)
  · intro crowded
    push Not at crowded
    obtain ⟨a, first, b, second, different, touching⟩ := crowded
    have collides : a.2.outline.Collides b.2.outline := not_not.mp touching
    rcases over_or_over different with above | below
    · exact ⟨a, first, b, second, above,
        (clash_iff_collides above (listed a first) (listed b second)).mpr collides⟩
    · exact ⟨b, second, a, first, below,
        (clash_iff_collides below (listed b second) (listed a first)).mpr collides.symm⟩

theorem spread_perm {layout other : Layout ℚ} (same : layout.outlines.Perm other.outlines) :
    layout.Spread ↔ other.Spread :=
  same.pairwise_iff Outline.Apart.symm

theorem coe_outlines (layout : Layout ℚ) :
    (layout.outlines : Multiset Outline) = layout.total fun line => {line.outline} := by
  unfold outlines total
  induction layout.lines with
  | nil => rfl
  | cons entry entries ih =>
      rw [List.map_cons, List.map_cons, List.sum_cons, ← ih]
      rfl

theorem outlines_afterCut {layout : Layout ℚ} {handle : Nat} {line : Line ℚ}
    (found : layout.line? handle = some line) (left fragment : Line ℚ) :
    ∃ others, layout.outlines.Perm (line.outline :: others) ∧
      (layout.afterCut handle left fragment).outlines.Perm
        (left.outline :: fragment.outline :: others) := by
  have listed : line.outline ∈ layout.outlines :=
    List.mem_map.mpr ⟨(handle, line), mem_lines.mpr found, rfl⟩
  refine ⟨layout.outlines.erase line.outline, List.perm_cons_erase listed, ?_⟩
  have moved := total_afterCut (fun line => ({line.outline} : Multiset Outline)) left fragment found
  have before := Multiset.coe_eq_coe.mpr (List.perm_cons_erase listed)
  rw [← coe_outlines, ← coe_outlines, before] at moved
  rw [← Multiset.coe_eq_coe]
  apply add_right_cancel (b := ({line.outline} : Multiset Outline))
  rw [moved]
  simp only [← Multiset.cons_coe, ← Multiset.singleton_add]
  abel

theorem spread_afterCut {layout : Layout ℚ} {handle : Nat} {line : Line ℚ} {x : ℚ}
    (found : layout.line? handle = some line) (level : line.Level)
    (inside : line.start.x < x ∧ x < line.finish.x)
    (long : layout.All fun line => line.minX < line.maxX) :
    (layout.afterCut handle (line.leftPart x) (line.rightPart x handle)).Spread ↔
      layout.Spread := by
  obtain ⟨others, before, after⟩ :=
    outlines_afterCut found (line.leftPart x) (line.rightPart x handle)
  have extended : ∀ other ∈ others, other.left < other.right := by
    intro other member
    obtain ⟨entry, listed, rfl⟩ := List.mem_map.mp
      (before.mem_iff.mpr (List.mem_cons_of_mem _ member))
    exact long entry.1 entry.2 (mem_lines.mp listed)
  have within : line.outline.left < x ∧ x < line.outline.right := Line.range_inside inside
  unfold Spread
  rw [before.pairwise_iff Outline.Apart.symm, after.pairwise_iff Outline.Apart.symm,
    Line.outline_leftPart inside, Line.outline_rightPart level inside]
  simp only [List.pairwise_cons, List.forall_mem_cons]
  constructor
  · rintro ⟨⟨_, leftApart⟩, rightApart, rest⟩
    refine ⟨?_, rest⟩
    intro other member
    exact (Outline.halves_apart_iff within (extended other member)).mp
      ⟨leftApart other member, rightApart other member⟩
  · rintro ⟨apart, rest⟩
    have halves := fun other member =>
      (Outline.halves_apart_iff within (extended other member)).mpr (apart other member)
    exact ⟨⟨Outline.halves_apart _ x, fun other member => (halves other member).1⟩,
      fun other member => (halves other member).2, rest⟩

theorem spread_afterSplit {layout : Layout ℚ} {upper lower : Nat} {up low : Line ℚ}
    (step : layout.SplitStep upper lower up low) :
    (layout.afterSplit upper lower up low).Spread ↔ layout.Spread := by
  apply spread_perm
  rw [← Multiset.coe_eq_coe, coe_outlines, coe_outlines]
  have moved := total_afterSplit (fun line => ({line.outline} : Multiset Outline)) step
  exact add_right_cancel (add_right_cancel moved)

structure Horizontal (layout : Layout ℚ) : Prop where
  built : layout.Built
  level : layout.All Line.Level
  long : layout.All fun line => 0 < line.length

theorem SettlingWith.spread {admits : Line ℚ → ℚ → Prop} {layout state : Layout ℚ} {cuts : Nat}
    (run : SettlingWith admits layout cuts state) (horizontal : layout.Horizontal) :
    (state.Spread ↔ layout.Spread) ∧ state.All fun line => line.minX < line.maxX := by
  have sound := horizontal.built.declared.allSound
  refine SettlingWith.along
    (motive := fun _ state =>
      (state.Spread ↔ layout.Spread) ∧ state.All fun line => line.minX < line.maxX) ?_ ?_ ?_ run
  · refine ⟨Iff.rfl, ?_⟩
    intro handle line found
    have long : 0 < line.length := horizontal.long handle line found
    rw [(horizontal.level handle line found).length_eq] at long
    exact sub_pos.mp long
  · intro cuts state handle line x run before step _
    obtain ⟨same, long⟩ := before
    have inside := step.inside (run.sound sound handle line step.found)
    have level := run.level horizontal.level handle line step.found
    refine ⟨(spread_afterCut step.found level inside long).trans same, ?_⟩
    have within := Line.range_inside inside
    refine long.afterCut (line?_bound step.found) ?_ ?_
    · rw [Line.minX_leftPart inside, Line.maxX_leftPart inside]
      exact within.1
    · rw [Line.minX_rightPart inside, Line.maxX_rightPart inside]
      exact within.2
  · intro cuts state upper lower up low _ before step
    exact ⟨(spread_afterSplit step).trans before.1,
      before.2.afterSplit step (before.2 upper up step.upper) (before.2 lower low step.lower)⟩

theorem SettlingWith.blocked_iff {admits : Line ℚ → ℚ → Prop} {layout state : Layout ℚ}
    {cuts : Nat} (run : SettlingWith admits layout cuts state) (horizontal : layout.Horizontal) :
    state.Blocked ↔ layout.Blocked := by
  have sound := horizontal.built.declared.allSound
  rw [blocked_iff_not_spread sound, blocked_iff_not_spread (run.sound sound),
    (run.spread horizontal).1]

theorem blocked_of_failed {layout : Layout ℚ} {failure : Failure ℚ}
    (loud : layout.nextChange = .error failure) : layout.Blocked := by
  have asks : layout.nextChange ≠ .ok none := by simp [loud]
  obtain ⟨upper, upperListed, lower, lowerListed, above, _, found⟩ := nextChange_found asks
  rw [loud] at found
  exact ⟨upper, upperListed, lower, lowerListed, above, stackChange_failed found⟩

theorem not_blocked_of_settled {layout : Layout ℚ} (quiet : layout.nextChange = .ok none) :
    ¬ layout.Blocked := by
  rintro ⟨upper, upperListed, lower, lowerListed, above, clash⟩
  have roomy := stackChange_none (nextChange_none quiet upperListed lowerListed above)
    clash.together
  exact absurd clash.close (not_lt.mpr roomy.hard)

def Fails (layout : Layout ℚ) : Prop :=
  ∃ upper lower, layout.settle.2 = .error (.strongConflict upper lower)

theorem Ended.verdict {layout : Layout ℚ} {result : Layout ℚ × Except (Failure ℚ) Nat}
    (ended : Ended layout result) (horizontal : layout.Horizontal) :
    (layout.Blocked ∧ ∃ upper lower, result.2 = .error (.strongConflict upper lower)) ∨
      ¬ layout.Blocked ∧ ∃ cuts, result.2 = .ok cuts := by
  cases ended with
  | settled run quiet =>
      refine Or.inr ⟨?_, _, rfl⟩
      rw [← run.blocked_iff horizontal]
      exact not_blocked_of_settled quiet
  | failed run loud =>
      obtain ⟨upper, lower, rfl⟩ := nextChange_error loud
      refine Or.inl ⟨?_, upper, lower, rfl⟩
      rw [← run.blocked_iff horizontal]
      exact blocked_of_failed loud

theorem Horizontal.verdict {layout : Layout ℚ} (horizontal : layout.Horizontal) :
    layout.Blocked ∧ layout.Fails ∨ ¬ layout.Blocked ∧ ∃ cuts, layout.settle.2 = .ok cuts :=
  (settle_ended horizontal.built.declared.allSound).verdict horizontal

theorem Horizontal.fails_iff {layout : Layout ℚ} (horizontal : layout.Horizontal) :
    layout.Fails ↔ layout.Blocked := by
  rcases horizontal.verdict with ⟨blocked, fails⟩ | ⟨free, cuts, succeeded⟩
  · exact iff_of_true fails blocked
  · refine iff_of_false ?_ free
    rintro ⟨upper, lower, failed⟩
    simp [succeeded] at failed

/-- What the outcome of settling says about a layout: whether two of its lines are too close for
their blocks. It rests on nothing that settling does to the layout, and not on the order of the
lines. -/
structure Judged (layout : Layout ℚ) : Prop where
  fails : layout.Fails ↔ layout.Blocked
  succeeds : ¬ layout.Blocked → ∃ cuts, layout.settle.2 = .ok cuts
  unmoved : ∀ cuts state, Settling layout cuts state → (state.Blocked ↔ layout.Blocked)
  order : ∀ other : Layout ℚ, other.Horizontal → other.outlines.Perm layout.outlines →
    (other.Fails ↔ layout.Fails)

theorem settle_fails_iff_blocked {layout : Layout ℚ} (horizontal : layout.Horizontal) :
    layout.Judged where
  fails := horizontal.fails_iff
  succeeds free := (horizontal.verdict.resolve_left fun blocked => free blocked.1).2
  unmoved _ _ run := run.blocked_iff horizontal
  order other horizontalToo same := by
    rw [horizontal.fails_iff, horizontalToo.fails_iff,
      blocked_iff_not_spread horizontal.built.declared.allSound,
      blocked_iff_not_spread horizontalToo.built.declared.allSound, spread_perm same]

def lateLayout : Layout ℚ :=
  ofLines [
    .between sampleGuide ⟨20, 0⟩ ⟨30, 0⟩,
    .between sampleGuide ⟨10, 7⟩ ⟨50, 7⟩,
    .between sampleGuide ⟨40, 9⟩ ⟨60, 9⟩]

theorem lateLayout_judged :
    lateLayout.Horizontal ∧ lateLayout.settle.1.lines.length = 5 ∧ lateLayout.Fails ∧
      lateLayout.Judged := by
  have level : lateLayout.All Line.Level := all_iff.mpr (by decide +kernel)
  have extended : ∀ entry ∈ lateLayout.lines, 0 < entry.2.maxX - entry.2.minX := by decide +kernel
  have long : lateLayout.All fun line => 0 < line.length := by
    intro handle line found
    rw [(level handle line found).length_eq]
    exact extended (handle, line) (mem_lines.mpr found)
  have horizontal : lateLayout.Horizontal := ⟨built_ofLines _, level, long⟩
  have judged := settle_fails_iff_blocked horizontal
  have succeeds : lateLayout.settle.2.toOption = none := by decide +kernel
  refine ⟨horizontal, by decide +kernel, ?_, judged⟩
  rcases horizontal.verdict with ⟨_, fails⟩ | ⟨_, cuts, succeeded⟩
  · exact fails
  · simp [succeeded, Except.toOption] at succeeds

end Layout

end Waveguide
