import Mathlib
import Waveguide.Proofs.Built
import Waveguide.Proofs.Scan

/-!
The layouts that settling passes through. Each comes from the one before by a cut or by a split;
what a cut and a split do is said once here, and every invariant of settling is derived from that.
-/

namespace Waveguide.Layout

/-- The layouts that settling passes through from `start`, with the number of cuts made on the way.
Every line that is cut admits the place where it is cut. -/
inductive SettlingWith (admits : Line ℚ → ℚ → Prop) (start : Layout ℚ) : Nat → Layout ℚ → Prop
  | start : SettlingWith admits start 0 start
  | cut {cuts layout handle x line next} : SettlingWith admits start cuts layout →
      layout.nextChange = .ok (some (.cut handle x)) → layout.line? handle = some line →
      admits line x → layout.cutLine handle x = .ok (some next) →
      SettlingWith admits start (cuts + 1) next
  | split {cuts layout upper lower distance} : SettlingWith admits start cuts layout →
      layout.nextChange = .ok (some (.split upper lower distance)) →
      SettlingWith admits start cuts (layout.splitPadding upper lower distance)

abbrev Settling : Layout ℚ → Nat → Layout ℚ → Prop := SettlingWith fun _ _ => True

structure CutStep (layout : Layout ℚ) (handle : Nat) (line : Line ℚ) (x : ℚ) : Prop where
  found : layout.line? handle = some line
  overhang : ∃ other ∈ layout.lines, Overhang line other.2 x

structure SplitStep (layout : Layout ℚ) (upper lower : Nat) (up low : Line ℚ) : Prop where
  different : upper ≠ lower
  upper : layout.line? upper = some up
  lower : layout.line? lower = some low
  crowded : Crowded up low
  aligned : Aligned up low

section Splits

variable {K : Type} [Scalar K]

def afterSplit (layout : Layout K) (upper lower : Nat) (up low : Line K) : Layout K :=
  let parts := shares up.clearance low.clearance (up.y - low.y)
  (layout.setLine upper (up.withSoftDown parts.1)).setLine lower (low.withSoftUp parts.2)

theorem splitPadding_eq {layout : Layout K} {upper lower : Nat} {up low : Line K}
    (different : upper ≠ lower) (upperFound : layout.line? upper = some up)
    (lowerFound : layout.line? lower = some low) :
    layout.splitPadding upper lower (up.y - low.y) = layout.afterSplit upper lower up low := by
  have kept : ∀ line, (layout.setLine upper line).line? lower = some low := fun line =>
    (line?_setLine_of_ne line different.symm).trans lowerFound
  simp only [splitPadding, upperFound, lowerFound, kept]
  rfl

end Splits

theorem nextChange_cutStep {layout : Layout ℚ} {handle : Nat} {x : ℚ}
    (asked : layout.nextChange = .ok (some (.cut handle x))) :
    ∃ line, layout.CutStep handle line x := by
  obtain ⟨line, found, overhang⟩ := nextChange_cut asked
  exact ⟨line, found, overhang⟩

theorem cutLine_some {K : Type} [Scalar K] {layout next : Layout K} {handle : Nat} {line : Line K}
    {x : K}
    (found : layout.line? handle = some line)
    (done : layout.cutLine handle x = .ok (some next)) :
    next = layout.afterCut handle (line.leftPart x) (line.rightPart x handle) := by
  simp only [cutLine, found, bind_eq_ok] at done
  obtain ⟨⟨left, fragment⟩, parts, result⟩ := done
  obtain ⟨rfl, rfl⟩ := Line.cut_ok parts
  simp only [Except.ok.injEq, Option.some.injEq] at result
  exact result.symm

theorem nextChange_splitStep {layout : Layout ℚ} {upper lower : Nat} {distance : ℚ}
    (asked : layout.nextChange = .ok (some (.split upper lower distance))) :
    ∃ up low, layout.SplitStep upper lower up low ∧
      layout.splitPadding upper lower distance = layout.afterSplit upper lower up low := by
  obtain ⟨different, up, low, upperFound, lowerFound, rfl, crowded, aligned⟩ :=
    nextChange_split asked
  exact ⟨up, low, ⟨different, upperFound, lowerFound, crowded, aligned⟩,
    splitPadding_eq different upperFound lowerFound⟩

/-- Induction along settling, with what a cut and a split are known to do. -/
theorem SettlingWith.along {admits : Line ℚ → ℚ → Prop} {start : Layout ℚ}
    {motive : Nat → Layout ℚ → Prop} (initially : motive 0 start)
    (afterCut : ∀ {cuts layout handle line x}, SettlingWith admits start cuts layout →
      motive cuts layout → layout.CutStep handle line x → admits line x →
      motive (cuts + 1) (layout.afterCut handle (line.leftPart x) (line.rightPart x handle)))
    (afterSplit : ∀ {cuts layout upper lower up low}, SettlingWith admits start cuts layout →
      motive cuts layout → layout.SplitStep upper lower up low →
      motive cuts (layout.afterSplit upper lower up low))
    {cuts : Nat} {state : Layout ℚ} (run : SettlingWith admits start cuts state) :
    motive cuts state := by
  induction run with
  | start => exact initially
  | cut run asked found admitted done ih =>
      obtain ⟨line, step⟩ := nextChange_cutStep asked
      obtain rfl : _ = line := Option.some.inj (found.symm.trans step.found)
      rw [cutLine_some found done]
      exact afterCut run ih step admitted
  | split run asked ih =>
      obtain ⟨up, low, step, result⟩ := nextChange_splitStep asked
      rw [result]
      exact afterSplit run ih step

def All (property : Line ℚ → Prop) (layout : Layout ℚ) : Prop :=
  ∀ handle line, layout.line? handle = some line → property line

theorem Declared.allSound {layout : Layout ℚ} (declared : layout.Declared) :
    layout.All Line.Sound :=
  fun _ _ found => (declared.line found).sound

theorem all_iff {property : Line ℚ → Prop} {layout : Layout ℚ} :
    layout.All property ↔ ∀ entry ∈ layout.lines, property entry.2 := by
  constructor
  · intro all entry listed
    exact all entry.1 entry.2 (mem_lines.mp listed)
  · intro all handle line found
    exact all (handle, line) (mem_lines.mpr found)

theorem All.afterCut {property : Line ℚ → Prop} {layout : Layout ℚ} (all : layout.All property)
    {handle : Nat} {left fragment : Line ℚ} (bound : handle < layout.elements.length)
    (leftNew : property left) (fragmentNew : property fragment) :
    (layout.afterCut handle left fragment).All property := by
  intro other found place
  rw [line?_afterCut left fragment bound] at place
  split at place
  · exact Option.some.inj place ▸ fragmentNew
  · split at place
    · exact Option.some.inj place ▸ leftNew
    · exact all other found place

theorem line?_afterSplit {layout : Layout ℚ} {upper lower : Nat} {up low : Line ℚ}
    (step : layout.SplitStep upper lower up low) (other : Nat) :
    (layout.afterSplit upper lower up low).line? other =
      if other = lower then
        some (low.withSoftUp (shares up.clearance low.clearance (up.y - low.y)).2)
      else if other = upper then
        some (up.withSoftDown (shares up.clearance low.clearance (up.y - low.y)).1)
      else layout.line? other := by
  have upperBound := line?_bound step.upper
  have lowerBound := line?_bound step.lower
  unfold afterSplit
  rw [line?_setLine _ (by simpa [Layout.setLine] using lowerBound), line?_setLine _ upperBound]

def splitLine (upper lower : Nat) (up low : Line ℚ) (handle : Nat) (line : Line ℚ) : Line ℚ :=
  let parts := shares up.clearance low.clearance (up.y - low.y)
  if handle = lower then line.withSoftUp parts.2
  else if handle = upper then line.withSoftDown parts.1
  else line

theorem line?_afterSplit_eq_map {layout : Layout ℚ} {upper lower : Nat} {up low : Line ℚ}
    (step : layout.SplitStep upper lower up low) (other : Nat) :
    (layout.afterSplit upper lower up low).line? other =
      (layout.line? other).map (splitLine upper lower up low other) := by
  rw [line?_afterSplit step]
  unfold splitLine
  split
  · rename_i isLower
    rw [isLower, step.lower, Option.map_some]
  · split
    · rename_i isUpper
      rw [isUpper, step.upper, Option.map_some]
    · rw [Option.map_id']

theorem splitLine_keeps (property : Line ℚ → Prop) {upper lower handle : Nat}
    {up low line : Line ℚ}
    (softUp : ∀ line soft, property line → property (Line.withSoftUp line soft))
    (softDown : ∀ line soft, property line → property (Line.withSoftDown line soft))
    (before : property line) : property (splitLine upper lower up low handle line) := by
  unfold splitLine
  split
  · exact softUp _ _ before
  · split
    · exact softDown _ _ before
    · exact before

theorem splitLine_same {α : Type} {upper lower handle : Nat} {up low line : Line ℚ}
    (view : Line ℚ → α) (softUp : ∀ line soft, view (Line.withSoftUp line soft) = view line)
    (softDown : ∀ line soft, view (Line.withSoftDown line soft) = view line) :
    view (splitLine upper lower up low handle line) = view line :=
  splitLine_keeps (fun changed => view changed = view line)
    (fun _ _ same => (softUp _ _).trans same) (fun _ _ same => (softDown _ _).trans same) rfl

theorem All.afterSplit {property : Line ℚ → Prop} {layout : Layout ℚ}
    (all : layout.All property) {upper lower : Nat} {up low : Line ℚ}
    (step : layout.SplitStep upper lower up low)
    (upNew : property (up.withSoftDown (shares up.clearance low.clearance (up.y - low.y)).1))
    (lowNew : property (low.withSoftUp (shares up.clearance low.clearance (up.y - low.y)).2)) :
    (layout.afterSplit upper lower up low).All property := by
  intro other found place
  rw [line?_afterSplit step] at place
  split at place
  · exact Option.some.inj place ▸ lowNew
  · split at place
    · exact Option.some.inj place ▸ upNew
    · exact all other found place

theorem shares_sum (up low : Clearance ℚ) (distance : ℚ) :
    (shares up low distance).1 + (shares up low distance).2 = distance := by
  have two : (2.0 : ℚ) = 2 := by norm_num
  simp only [shares, two]
  split
  · ring
  · ring

theorem le_shares {up low : Clearance ℚ} {distance : ℚ} (apart : low.up + up.down ≤ distance) :
    up.down ≤ (shares up low distance).1 ∧ low.up ≤ (shares up low distance).2 := by
  have two : (2.0 : ℚ) = 2 := by norm_num
  simp only [shares, two]
  split
  · rename_i roomy
    exact roomy
  · exact ⟨by linarith, by linarith⟩

theorem CutStep.inside {layout : Layout ℚ} {handle : Nat} {line : Line ℚ} {x : ℚ}
    (step : layout.CutStep handle line x) (sound : line.Sound) :
    line.start.x < x ∧ x < line.finish.x := by
  obtain ⟨other, _, overhang⟩ := step.overhang
  have ordered := sound.start_le_finish overhang.long
  rw [← Line.minX_of_le ordered, ← Line.maxX_of_le ordered]
  exact ⟨overhang.left, overhang.right⟩

theorem CutStep.cutLine_eq {layout : Layout ℚ} {handle : Nat} {line : Line ℚ} {x : ℚ}
    (step : layout.CutStep handle line x) (sound : line.Sound) :
    layout.cutLine handle x =
      .ok (some (layout.afterCut handle (line.leftPart x) (line.rightPart x handle))) := by
  have inside := step.inside sound
  simp only [cutLine, step.found, Line.cut_of_le (inside.1.trans inside.2).le]
  rfl

theorem SettlingWith.sound {admits : Line ℚ → ℚ → Prop} {start state : Layout ℚ} {cuts : Nat}
    (run : SettlingWith admits start cuts state) (sound : start.All Line.Sound) :
    state.All Line.Sound := by
  refine SettlingWith.along (motive := fun _ state => state.All Line.Sound) sound ?_ ?_ run
  · intro cuts layout handle line x _ before step _
    have cutSound := before handle line step.found
    have inside := step.inside cutSound
    exact before.afterCut (line?_bound step.found) (cutSound.leftPart inside.1)
      (cutSound.rightPart inside.2)
  · intro cuts layout upper lower up low _ before step
    have upSound := before upper up step.upper
    have lowSound := before lower low step.lower
    have enough := le_shares step.crowded.apart
    refine before.afterSplit step ?_ ?_
    · exact upSound.withSoftDown (upSound.down ▸ enough.1)
    · exact lowSound.withSoftUp (lowSound.up ▸ enough.2)

theorem SettlingWith.level {admits : Line ℚ → ℚ → Prop} {start state : Layout ℚ} {cuts : Nat}
    (run : SettlingWith admits start cuts state) (level : start.All Line.Level) :
    state.All Line.Level := by
  refine SettlingWith.along (motive := fun _ state => state.All Line.Level) level ?_ ?_ run
  · intro cuts layout handle line x _ before step _
    exact before.afterCut (line?_bound step.found) (before handle line step.found) rfl
  · intro cuts layout upper lower up low _ before step
    exact before.afterSplit step (before upper up step.upper) (before lower low step.lower)

theorem connector?_afterSplit {layout : Layout ℚ} {upper lower : Nat} {up low : Line ℚ}
    (step : layout.SplitStep upper lower up low) (other : Nat) :
    (layout.afterSplit upper lower up low).connector? other = layout.connector? other := by
  let parts := shares up.clearance low.clearance (up.y - low.y)
  have lowKept : (layout.setLine upper (up.withSoftDown parts.1)).line? lower = some low :=
    (line?_setLine_of_ne _ step.different.symm).trans step.lower
  rw [← connector?_setLine (up.withSoftDown parts.1) step.upper other]
  exact connector?_setLine _ lowKept other

structure Untouched (layout : Layout ℚ) (cuts : Nat) (state : Layout ℚ) : Prop where
  index : state.index = layout.index
  bounds : state.bounds = layout.bounds
  thickness : state.thickness = layout.thickness
  connectors : ∀ handle, state.connector? handle = layout.connector? handle
  count : state.elements.length = layout.elements.length + cuts

theorem SettlingWith.untouched {admits : Line ℚ → ℚ → Prop} {layout state : Layout ℚ} {cuts : Nat}
    (run : SettlingWith admits layout cuts state) : layout.Untouched cuts state := by
  refine SettlingWith.along (motive := layout.Untouched) ?_ ?_ ?_ run
  · exact ⟨rfl, rfl, rfl, fun _ => rfl, rfl⟩
  · intro cuts state handle line x _ before step _
    refine { before with connectors := ?_, count := ?_ }
    · intro other
      rw [connector?_afterCut _ _ step.found, before.connectors]
    · simp only [afterCut, List.length_append, List.length_set, List.length_singleton]
      rw [before.count, Nat.add_assoc]
  · intro cuts state upper lower up low _ before step
    refine { before with connectors := ?_, count := ?_ }
    · intro other
      rw [connector?_afterSplit step, before.connectors]
    · simp only [afterSplit, setLine, List.length_set]
      exact before.count

/-- One scan of a layout with sound lines: it is settled, it fails on a pair that is too close, or
it goes on with the change that was asked for. No cut fails, and no line is missing. -/
theorem scan_cases {layout : Layout ℚ} (sound : layout.All Line.Sound) :
    (layout.nextChange = .ok none ∧ layout.scan = .settled) ∨
      (∃ failure, layout.nextChange = .error failure ∧ layout.scan = .failed failure) ∨
      (∃ handle x line, layout.nextChange = .ok (some (.cut handle x)) ∧
        layout.CutStep handle line x ∧
        layout.cutLine handle x =
          .ok (some (layout.afterCut handle (line.leftPart x) (line.rightPart x handle))) ∧
        layout.scan = .cut (layout.afterCut handle (line.leftPart x) (line.rightPart x handle))) ∨
      (∃ upper lower distance up low,
        layout.nextChange = .ok (some (.split upper lower distance)) ∧
        layout.SplitStep upper lower up low ∧
        layout.splitPadding upper lower distance = layout.afterSplit upper lower up low ∧
        layout.scan = .split (layout.afterSplit upper lower up low)) := by
  cases asked : layout.nextChange with
  | error failure =>
      exact Or.inr (Or.inl ⟨failure, rfl, by simp only [scan, asked]⟩)
  | ok change =>
      cases change with
      | none => exact Or.inl ⟨rfl, by simp only [scan, asked]⟩
      | some change =>
          right
          right
          cases change with
          | cut handle x =>
              left
              obtain ⟨line, step⟩ := nextChange_cutStep asked
              have done := step.cutLine_eq (sound handle line step.found)
              exact ⟨handle, x, line, rfl, step, done, by simp only [scan, asked, done]⟩
          | split upper lower distance =>
              right
              obtain ⟨up, low, step, result⟩ := nextChange_splitStep asked
              exact ⟨upper, lower, distance, up, low, rfl, step, result,
                by simp only [scan, asked, result]⟩

end Waveguide.Layout
