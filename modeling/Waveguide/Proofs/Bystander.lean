import Mathlib
import Waveguide.Proofs.Termination

/-!
Settling leaves a line alone that has all the clearance it asks for on both sides. It is never cut
and never split, and no split between two other lines brings them too close to it: the padding that
a line gains does not reach beyond the other line of the pair.
-/

namespace Waveguide

structure Clear (upper lower : Line ℚ) : Prop where
  above : lower.y < upper.y
  roomy : upper.clearance.softDown + lower.clearance.softUp ≤ upper.y - lower.y

def Neighbourly (a b : Line ℚ) : Prop := Clear a b ∨ Clear b a

section Pair

variable {up low line : Line ℚ}

theorem Clear.withSoftUp (clear : Clear up low) (softUp : ℚ) : Clear (up.withSoftUp softUp) low :=
  ⟨clear.above, clear.roomy⟩

theorem Clear.withSoftDown (clear : Clear up low) (softDown : ℚ) :
    Clear up (low.withSoftDown softDown) :=
  ⟨clear.above, clear.roomy⟩

theorem Crowded.low_le_up (crowded : Crowded up low) (upSound : up.Sound) (lowSound : low.Sound) :
    low.y ≤ up.y := by
  have upReach := upSound.property.reach_nonneg
  have lowReach := lowSound.property.reach_nonneg
  have apart := crowded.apart
  rw [lowSound.up, upSound.down] at apart
  linarith

theorem Crowded.not_neighbourly (crowded : Crowded up low) (upSound : up.Sound)
    (lowSound : low.Sound) : ¬ Neighbourly up low := by
  have positive := Scalar.tolerance_pos
  have close := crowded.close
  rintro (clear | clear)
  · linarith [clear.roomy]
  · exact absurd clear.above (not_lt.mpr (crowded.low_le_up upSound lowSound))

theorem Clear.of_below (crowded : Crowded up low) (upSound : up.Sound) (lowSound : low.Sound)
    (clear : Clear low line) :
    Clear (up.withSoftDown (Layout.shares up.clearance low.clearance (up.y - low.y)).1) line := by
  have order := crowded.low_le_up upSound lowSound
  have reach := lowSound.property.reach_nonneg
  have softDown := lowSound.softDown
  have shared := Layout.shares_sum up.clearance low.clearance (up.y - low.y)
  have enough := (Layout.le_shares crowded.apart).2
  have roomy := clear.roomy
  rw [lowSound.up] at enough
  refine ⟨clear.above.trans_le order, ?_⟩
  change _ + line.clearance.softUp ≤ up.y - line.y
  simp only [Line.withSoftDown]
  linarith

theorem Clear.of_above (crowded : Crowded up low) (upSound : up.Sound) (lowSound : low.Sound)
    (clear : Clear line up) :
    Clear line (low.withSoftUp (Layout.shares up.clearance low.clearance (up.y - low.y)).2) := by
  have order := crowded.low_le_up upSound lowSound
  have reach := upSound.property.reach_nonneg
  have softUp := upSound.softUp
  have shared := Layout.shares_sum up.clearance low.clearance (up.y - low.y)
  have enough := (Layout.le_shares crowded.apart).1
  have roomy := clear.roomy
  rw [upSound.down] at enough
  refine ⟨order.trans_lt clear.above, ?_⟩
  change line.clearance.softDown + _ ≤ line.y - low.y
  simp only [Line.withSoftUp]
  linarith

theorem Crowded.not_between (crowded : Crowded up low) (sound : line.Sound)
    (above : Clear up line) (below : Clear line low) : False := by
  have positive := Scalar.tolerance_pos
  have reach := sound.property.reach_nonneg
  have softUp := sound.softUp
  have softDown := sound.softDown
  have close := crowded.close
  linarith [above.roomy, below.roomy]

theorem Neighbourly.afterSplit (crowded : Crowded up low) (upSound : up.Sound)
    (lowSound : low.Sound) (sound : line.Sound) (upper : Neighbourly up line)
    (lower : Neighbourly low line) :
    Neighbourly (up.withSoftDown (Layout.shares up.clearance low.clearance (up.y - low.y)).1)
        line ∧
      Neighbourly (low.withSoftUp (Layout.shares up.clearance low.clearance (up.y - low.y)).2)
        line := by
  have order := crowded.low_le_up upSound lowSound
  rcases upper with upAbove | upBelow
  · rcases lower with lowAbove | lowBelow
    · exact ⟨Or.inl (lowAbove.of_below crowded upSound lowSound),
        Or.inl (lowAbove.withSoftUp _)⟩
    · exact absurd lowBelow fun below => crowded.not_between sound upAbove below
  · rcases lower with lowAbove | lowBelow
    · exact absurd (upBelow.above.trans lowAbove.above) (not_lt.mpr order)
    · exact ⟨Or.inr (upBelow.withSoftDown _),
        Or.inr (upBelow.of_above crowded upSound lowSound)⟩

theorem Neighbourly.parts {x : ℚ} (room : up.disjoint line = false → Neighbourly up line)
    (level : up.Level) (inside : up.start.x < x ∧ x < up.finish.x) (parent : Nat) :
    ((up.leftPart x).disjoint line = false → Neighbourly (up.leftPart x) line) ∧
      ((up.rightPart x parent).disjoint line = false →
        Neighbourly (up.rightPart x parent) line) := by
  cases together : up.disjoint line with
  | true =>
      have apart := Line.disjoint_parts inside together parent
      simp [apart]
  | false =>
      have height : (up.rightPart x parent).y = up.y := level.symm
      rcases room together with above | below
      · refine ⟨fun _ => Or.inl ⟨above.above, above.roomy⟩, fun _ => Or.inl ⟨?_, ?_⟩⟩
        · rw [height]
          exact above.above
        · rw [height]
          exact above.roomy
      · refine ⟨fun _ => Or.inr ⟨below.above, below.roomy⟩, fun _ => Or.inr ⟨?_, ?_⟩⟩
        · rw [height]
          exact below.above
        · rw [height]
          exact below.roomy

end Pair

theorem Aligned.exact {edges : Finset ℚ} {up low : Line ℚ} (aligned : Aligned up low)
    (distinct : ∀ x ∈ edges, ∀ y ∈ edges, x = y ∨ Scalar.tolerance < |x - y|)
    (upEnds : up.EndsIn edges) (lowEnds : low.EndsIn edges) :
    up.minX = low.minX ∧ up.maxX = low.maxX := by
  have left := distinct _ upEnds.minX_mem _ lowEnds.minX_mem
  have right := distinct _ upEnds.maxX_mem _ lowEnds.maxX_mem
  exact ⟨left.resolve_right (not_lt.mpr aligned.left),
    right.resolve_right (not_lt.mpr aligned.right)⟩

namespace Layout

theorem nextChange_crowded {layout : Layout ℚ} {change : Change ℚ}
    (asked : layout.nextChange = .ok (some change)) :
    ∃ upper lower : Nat × Line ℚ, layout.line? upper.1 = some upper.2 ∧
      layout.line? lower.1 = some lower.2 ∧ upper.1 ≠ lower.1 ∧ Crowded upper.2 lower.2 ∧
      change = alignment upper lower (upper.2.y - lower.2.y) := by
  have loud : layout.nextChange ≠ .ok none := by simp [asked]
  obtain ⟨upper, upperListed, lower, lowerListed, _, different, found⟩ := nextChange_found loud
  rw [asked] at found
  obtain ⟨crowded, same⟩ := stackChange_some found
  exact ⟨upper, lower, mem_lines.mp upperListed, mem_lines.mp lowerListed, different, crowded, same⟩

structure Spares (layout : Layout ℚ) (handle : Nat) (line : Line ℚ) : Prop where
  found : layout.line? handle = some line
  clear : ∀ other neighbour, other ≠ handle → layout.line? other = some neighbour →
    neighbour.disjoint line = false → Neighbourly neighbour line

namespace Spares

variable {layout : Layout ℚ} {handle : Nat} {line : Line ℚ}

theorem not_crowded (spares : layout.Spares handle line) (sound : layout.All Line.Sound)
    {upper lower : Nat} {up low : Line ℚ} (different : upper ≠ lower)
    (upperFound : layout.line? upper = some up) (lowerFound : layout.line? lower = some low)
    (crowded : Crowded up low) : upper ≠ handle ∧ lower ≠ handle := by
  have together : up.disjoint low = false :=
    (Line.disjoint_eq_false_iff _ _).mpr ⟨crowded.left, crowded.right⟩
  have apart := crowded.not_neighbourly (sound upper up upperFound) (sound lower low lowerFound)
  refine ⟨?_, ?_⟩
  · rintro rfl
    obtain rfl : line = up := Option.some.inj (spares.found.symm.trans upperFound)
    rw [Line.disjoint_comm] at together
    exact apart (spares.clear lower low different.symm lowerFound together).symm
  · rintro rfl
    obtain rfl : line = low := Option.some.inj (spares.found.symm.trans lowerFound)
    exact apart (spares.clear upper up different upperFound together)

theorem afterCut (spares : layout.Spares handle line) {cutHandle : Nat} {whole : Line ℚ} {x : ℚ}
    (different : cutHandle ≠ handle) (found : layout.line? cutHandle = some whole)
    (level : whole.Level) (inside : whole.start.x < x ∧ x < whole.finish.x) :
    (layout.afterCut cutHandle (whole.leftPart x) (whole.rightPart x cutHandle)).Spares handle
      line := by
  have bound := line?_bound found
  have parts := Neighbourly.parts (spares.clear cutHandle whole different found) level inside
    cutHandle
  constructor
  · rw [line?_afterCut _ _ bound, if_neg (line?_bound spares.found).ne, if_neg different.symm]
    exact spares.found
  · intro other neighbour notHandle place together
    rw [line?_afterCut _ _ bound] at place
    split at place
    · obtain rfl := Option.some.inj place
      exact parts.2 together
    · split at place
      · obtain rfl := Option.some.inj place
        exact parts.1 together
      · exact spares.clear other neighbour notHandle place together

theorem afterSplit (spares : layout.Spares handle line) (sound : layout.All Line.Sound)
    {upper lower : Nat} {up low : Line ℚ} (step : layout.SplitStep upper lower up low)
    (flush : up.minX = low.minX ∧ up.maxX = low.maxX) :
    (layout.afterSplit upper lower up low).Spares handle line := by
  have others := spares.not_crowded sound step.different step.upper step.lower step.crowded
  have upSound := sound upper up step.upper
  have lowSound := sound lower low step.lower
  have same : up.disjoint line = low.disjoint line := by
    rw [Line.disjoint, Line.disjoint, flush.1, flush.2]
  have split : low.disjoint line = false → _ := fun together =>
    Neighbourly.afterSplit step.crowded upSound lowSound (sound handle line spares.found)
      (spares.clear upper up others.1 step.upper (same.trans together))
      (spares.clear lower low others.2 step.lower together)
  constructor
  · rw [line?_afterSplit step, if_neg others.2.symm, if_neg others.1.symm]
    exact spares.found
  · intro other neighbour notHandle place together
    rw [line?_afterSplit step] at place
    split at place
    · obtain rfl := Option.some.inj place
      rw [Line.disjoint_withSoftUp] at together
      exact (split together).2
    · split at place
      · obtain rfl := Option.some.inj place
        rw [Line.disjoint_withSoftDown, same] at together
        exact (split together).1
      · exact spares.clear other neighbour notHandle place together

end Spares

/-- A layout of horizontal lines, each of some thickness, whose ends are in line with one another
or clearly apart. -/
structure Crisp (layout : Layout ℚ) : Prop where
  built : layout.Built
  level : layout.All Line.Level
  thick : layout.All fun line => 0 < line.clearance.up ∧ 0 < line.clearance.down
  ends : ∀ x ∈ layout.edges, ∀ y ∈ layout.edges, x = y ∨ Scalar.tolerance < |x - y|

/-- The line at a place is at least the two soft clearances away from every other line that it
shares part of its x-range with. -/
structure Bystander (layout : Layout ℚ) (handle : Nat) (line : Line ℚ) : Prop where
  found : layout.line? handle = some line
  below : ∀ upper ∈ layout.lines, Over upper (handle, line) → upper.2.disjoint line = false →
    upper.2.clearance.softDown + line.clearance.softUp ≤ upper.2.y - line.y
  above : ∀ lower ∈ layout.lines, Over (handle, line) lower → lower.2.disjoint line = false →
    line.clearance.softDown + lower.2.clearance.softUp ≤ line.y - lower.2.y

theorem Crisp.clear {layout : Layout ℚ} (crisp : layout.Crisp) {upper lower : Nat}
    {up low : Line ℚ} (upperFound : layout.line? upper = some up)
    (lowerFound : layout.line? lower = some low)
    (roomy : up.clearance.softDown + low.clearance.softUp ≤ up.y - low.y) : Clear up low := by
  have upSound := crisp.built.declared.allSound upper up upperFound
  have lowSound := crisp.built.declared.allSound lower low lowerFound
  have softDown := upSound.softDown
  have softUp := lowSound.softUp
  have upThick := (crisp.thick upper up upperFound).2
  have lowThick := (crisp.thick lower low lowerFound).1
  rw [upSound.down] at upThick
  rw [lowSound.up] at lowThick
  exact ⟨by linarith, roomy⟩

theorem Bystander.spares {layout : Layout ℚ} {handle : Nat} {line : Line ℚ}
    (bystander : layout.Bystander handle line) (crisp : layout.Crisp) :
    layout.Spares handle line := by
  refine ⟨bystander.found, ?_⟩
  intro other neighbour different place together
  have listed : (other, neighbour) ∈ layout.lines := mem_lines.mpr place
  have ordered : Over (other, neighbour) (handle, line) ∨ Over (handle, line) (other, neighbour) :=
    over_or_over different
  rcases ordered with above | below
  · have roomy := bystander.below (other, neighbour) listed above together
    exact Or.inl (crisp.clear place bystander.found roomy)
  · have roomy := bystander.above (other, neighbour) listed below together
    exact Or.inr (crisp.clear bystander.found place roomy)

theorem SettlingWith.spares {admits : Line ℚ → ℚ → Prop} {layout state : Layout ℚ} {cuts : Nat}
    (run : SettlingWith admits layout cuts state) (crisp : layout.Crisp) {handle : Nat}
    {line : Line ℚ} (spares : layout.Spares handle line) : state.Spares handle line := by
  have sound := crisp.built.declared.allSound
  induction run with
  | start => exact spares
  | @cut cuts state cutHandle x whole next run asked found _ done ih =>
      obtain ⟨upper, lower, upperFound, lowerFound, different, crowded, change⟩ :=
        nextChange_crowded asked
      have stateSound := run.sound sound
      have others := ih.not_crowded stateSound different upperFound lowerFound crowded
      have foreign : cutHandle ≠ handle := by
        rcases crowded.alignment_cases (upper.2.y - lower.2.y) with
          ⟨_, aligned, _⟩ | ⟨_, aligned, _⟩ | ⟨aligned, _⟩
        · rw [aligned, Change.cut.injEq] at change
          exact change.1 ▸ others.1
        · rw [aligned, Change.cut.injEq] at change
          exact change.1 ▸ others.2
        · simp [aligned] at change
      obtain ⟨_, step⟩ := nextChange_cutStep asked
      obtain rfl := Option.some.inj (found.symm.trans step.found)
      rw [cutLine_some found done]
      exact ih.afterCut foreign found (run.level crisp.level cutHandle whole found)
        (step.inside (stateSound cutHandle whole found))
  | @split cuts state upper lower distance run asked ih =>
      obtain ⟨up, low, step, result⟩ := nextChange_splitStep asked
      have ends := (run.progress sound).ends
      rw [result]
      exact ih.afterSplit (run.sound sound) step
        (step.aligned.exact crisp.ends (ends upper up step.upper) (ends lower low step.lower))

/-- Whatever settling passes through and wherever it ends, it leaves a bystander as it was. -/
theorem settling_spares_bystander {layout : Layout ℚ} {handle : Nat} {line : Line ℚ}
    (crisp : layout.Crisp) (bystander : layout.Bystander handle line) :
    (∀ cuts state, Settling layout cuts state →
        state.elements[handle]? = layout.elements[handle]?) ∧
      layout.settle.1.elements[handle]? = layout.elements[handle]? := by
  have spares := bystander.spares crisp
  have spared : ∀ cuts state, Settling layout cuts state →
      state.elements[handle]? = layout.elements[handle]? := by
    intro cuts state run
    rw [line?_eq_some_iff.mp (run.spares crisp spares).found, line?_eq_some_iff.mp spares.found]
  obtain ⟨total, reached, _⟩ := (settle_ended crisp.built.declared.allSound).outcome
  exact ⟨spared, spared total _ reached⟩

def watchedLayout : Layout ℚ :=
  ofLines [
    .between sampleGuide ⟨0, 0⟩ ⟨30, 0⟩,
    .between sampleGuide ⟨10, 7⟩ ⟨50, 7⟩,
    .between sampleGuide ⟨20, 15⟩ ⟨60, 15⟩]

theorem watchedLayout_spared :
    ∃ line, (watchedLayout.Crisp ∧ watchedLayout.Bystander 2 line) ∧
      watchedLayout.settle.2.toOption = some 2 ∧
      (∀ cuts state, Settling watchedLayout cuts state →
        state.elements[2]? = watchedLayout.elements[2]?) ∧
      watchedLayout.settle.1.elements[2]? = watchedLayout.elements[2]? := by
  have level : watchedLayout.All Line.Level := all_iff.mpr (by decide +kernel)
  have thick : watchedLayout.All fun line => 0 < line.clearance.up ∧ 0 < line.clearance.down :=
    all_iff.mpr (by decide +kernel)
  have crisp : watchedLayout.Crisp := ⟨built_ofLines _, level, thick, by decide +kernel⟩
  obtain ⟨line, found⟩ := Option.isSome_iff_exists.mp
    (by decide +kernel : (watchedLayout.line? 2).isSome = true)
  have room : ∀ line ∈ watchedLayout.line? 2,
      (∀ upper ∈ watchedLayout.lines,
        (line.y < upper.2.y ∨ line.y = upper.2.y ∧ 2 < upper.1) → upper.2.disjoint line = false →
          upper.2.clearance.softDown + line.clearance.softUp ≤ upper.2.y - line.y) ∧
      (∀ lower ∈ watchedLayout.lines,
        (lower.2.y < line.y ∨ lower.2.y = line.y ∧ lower.1 < 2) → lower.2.disjoint line = false →
          line.clearance.softDown + lower.2.clearance.softUp ≤ line.y - lower.2.y) := by
    decide +kernel
  have bystander : watchedLayout.Bystander 2 line :=
    ⟨found, (room line found).1, (room line found).2⟩
  exact ⟨line, ⟨crisp, bystander⟩, by decide +kernel, settling_spares_bystander crisp bystander⟩

end Layout

end Waveguide
