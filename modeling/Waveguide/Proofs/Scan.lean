import Mathlib
import Waveguide.Proofs.Elements

/-!
What one scan over the pairs of lines finds: nothing to do, two lines that are too close, or a
crowded pair together with the change that its alignment asks for.
-/

namespace Waveguide

/-- The first line is above the second. Of two lines at one height the later one counts as the upper
one. -/
def Over (upper lower : Nat × Line ℚ) : Prop :=
  lower.2.y < upper.2.y ∨ lower.2.y = upper.2.y ∧ lower.1 < upper.1

theorem over_or_over {a b : Nat × Line ℚ} (different : a.1 ≠ b.1) : Over a b ∨ Over b a := by
  unfold Over
  rcases lt_trichotomy a.2.y b.2.y with below | level | above
  · exact Or.inr (Or.inl below)
  · rcases Nat.lt_or_gt_of_ne different with earlier | later
    · exact Or.inr (Or.inr ⟨level, earlier⟩)
    · exact Or.inl (Or.inr ⟨level.symm, later⟩)
  · exact Or.inl (Or.inl above)

theorem Over.asymm {a b : Nat × Line ℚ} (above : Over a b) : ¬ Over b a := by
  unfold Over at above ⊢
  rcases above with lower | ⟨level, earlier⟩
  · rintro (higher | ⟨level, _⟩)
    · exact lt_asymm lower higher
    · exact lower.ne level.symm
  · rintro (higher | ⟨_, later⟩)
    · exact higher.ne level.symm
    · exact lt_asymm earlier later

section Stacks

variable {K : Type} [Scalar K]

def stackChange (upper lower : Nat × Line K) : Except (Failure K) (Option (Change K)) :=
  let up := upper.2.clearance
  let low := lower.2.clearance
  let distance := upper.2.y - lower.2.y
  if upper.2.disjoint lower.2 then .ok none
  else if distance < low.up + up.down then .error (.strongConflict upper.2.y lower.2.y)
  else if up.softDown + low.softUp - Scalar.tolerance ≤ distance then .ok none
  else .ok (some (alignment upper lower distance))

theorem pairChange_of_above {a b : Nat × Line K} (above : b.2.y < a.2.y) :
    pairChange a b = stackChange a b := by
  simp only [pairChange, stackChange, if_pos above]

theorem pairChange_of_not_above {a b : Nat × Line K} (notAbove : ¬ b.2.y < a.2.y) :
    pairChange a b = stackChange b a := by
  simp only [pairChange, stackChange, if_neg notAbove, Line.disjoint_comm b.2 a.2]

end Stacks

theorem pairChange_eq {a b : Nat × Line ℚ} (earlier : a.1 < b.1) :
    Over a b ∧ pairChange a b = stackChange a b ∨ Over b a ∧ pairChange a b = stackChange b a := by
  by_cases above : b.2.y < a.2.y
  · exact Or.inl ⟨Or.inl above, pairChange_of_above above⟩
  · right
    refine ⟨?_, pairChange_of_not_above above⟩
    rcases lt_or_eq_of_le (not_lt.mp above) with below | level
    · exact Or.inl below
    · exact Or.inr ⟨level, earlier⟩

/-- Two lines that share part of their x-range, closer than their padding allows but no closer than
their hard clearances. -/
structure Crowded (up low : Line ℚ) : Prop where
  left : low.minX < up.maxX
  right : up.minX < low.maxX
  apart : low.clearance.up + up.clearance.down ≤ up.y - low.y
  close : up.y - low.y < up.clearance.softDown + low.clearance.softUp - Scalar.tolerance

/-- An upper and a lower line that keep their hard clearances, and the soft ones within the
tolerance. -/
structure Roomy (up low : Line ℚ) : Prop where
  hard : low.clearance.up + up.clearance.down ≤ up.y - low.y
  soft : up.clearance.softDown + low.clearance.softUp - Scalar.tolerance ≤ up.y - low.y

theorem stackChange_some {upper lower : Nat × Line ℚ} {change : Change ℚ}
    (found : stackChange upper lower = .ok (some change)) :
    Crowded upper.2 lower.2 ∧ change = alignment upper lower (upper.2.y - lower.2.y) := by
  simp only [stackChange] at found
  split at found
  · simp at found
  · rename_i together
    obtain ⟨left, right⟩ := (Line.disjoint_eq_false_iff _ _).mp (Bool.not_eq_true _ ▸ together)
    split at found
    · contradiction
    · rename_i apart
      split at found
      · simp at found
      · rename_i close
        simp only [Except.ok.injEq, Option.some.injEq] at found
        exact ⟨⟨left, right, not_lt.mp apart, not_le.mp close⟩, found.symm⟩

theorem stackChange_error {upper lower : Nat × Line ℚ} {failure : Failure ℚ}
    (found : stackChange upper lower = .error failure) :
    failure = .strongConflict upper.2.y lower.2.y := by
  simp only [stackChange] at found
  split at found
  · contradiction
  · split at found
    · simpa using found.symm
    · split at found <;> contradiction

theorem stackChange_none {upper lower : Nat × Line ℚ} (quiet : stackChange upper lower = .ok none)
    (together : upper.2.disjoint lower.2 = false) : Roomy upper.2 lower.2 := by
  simp only [stackChange, together, Bool.false_eq_true, if_false] at quiet
  split at quiet
  · contradiction
  · rename_i apart
    split at quiet
    · rename_i close
      exact ⟨not_lt.mp apart, close⟩
    · simp at quiet

/-- A line that is to be cut at `x`, an end of the other line: it goes on beyond `x` by more than
the tolerance on the side that overhangs. -/
structure Overhang (line other : Line ℚ) (x : ℚ) : Prop where
  edge : x = other.minX ∨ x = other.maxX
  left : line.minX < x
  right : x < line.maxX
  long : Scalar.tolerance < line.maxX - line.minX

structure Aligned (up low : Line ℚ) : Prop where
  left : |up.minX - low.minX| ≤ Scalar.tolerance
  right : |up.maxX - low.maxX| ≤ Scalar.tolerance

theorem Crowded.alignment_cases {upper lower : Nat × Line ℚ} (crowded : Crowded upper.2 lower.2)
    (distance : ℚ) :
    (∃ x, alignment upper lower distance = .cut upper.1 x ∧ Overhang upper.2 lower.2 x) ∨
      (∃ x, alignment upper lower distance = .cut lower.1 x ∧ Overhang lower.2 upper.2 x) ∨
      (alignment upper lower distance = .split upper.1 lower.1 distance ∧
        Aligned upper.2 lower.2) := by
  have left := crowded.left
  have right := crowded.right
  have positive := Scalar.tolerance_pos
  simp only [alignment]
  split
  · exact Or.inl ⟨_, rfl, Or.inl rfl, by linarith, left, by linarith⟩
  · rename_i upperLeft
    split
    · exact Or.inr (Or.inl ⟨_, rfl, Or.inl rfl, by linarith, right, by linarith⟩)
    · rename_i lowerLeft
      split
      · exact Or.inr (Or.inl ⟨_, rfl, Or.inr rfl, left, by linarith, by linarith⟩)
      · rename_i lowerRight
        split
        · exact Or.inl ⟨_, rfl, Or.inr rfl, right, by linarith, by linarith⟩
        · rename_i upperRight
          refine Or.inr (Or.inr ⟨rfl, ?_, ?_⟩)
          · exact abs_le.mpr ⟨by linarith, by linarith⟩
          · exact abs_le.mpr ⟨by linarith, by linarith⟩

section Scans

variable {K : Type} [Scalar K]

theorem changeWith_none_iff {line : Nat × Line K} {others : List (Nat × Line K)} :
    changeWith line others = .ok none ↔ ∀ other ∈ others, pairChange line other = .ok none := by
  induction others with
  | nil => simp [changeWith]
  | cons other others ih =>
      simp only [changeWith, List.forall_mem_cons]
      split
      · rename_i quiet
        rw [ih]
        exact ⟨fun rest => ⟨quiet, rest⟩, fun all => all.2⟩
      · rename_i loud
        exact ⟨fun quiet => absurd quiet loud, fun all => all.1⟩

theorem changeWith_found {line : Nat × Line K} {others : List (Nat × Line K)}
    (loud : changeWith line others ≠ .ok none) :
    ∃ other ∈ others, pairChange line other = changeWith line others := by
  induction others with
  | nil => exact absurd rfl loud
  | cons other others ih =>
      simp only [changeWith] at loud ⊢
      split at loud
      · obtain ⟨later, member, found⟩ := ih loud
        exact ⟨later, List.mem_cons_of_mem _ member, found⟩
      · exact ⟨other, List.mem_cons_self, rfl⟩

theorem firstChange_none_iff {lines : List (Nat × Line K)} :
    firstChange lines = .ok none ↔ lines.Pairwise fun a b => pairChange a b = .ok none := by
  induction lines with
  | nil => simp [firstChange]
  | cons line others ih =>
      simp only [firstChange, List.pairwise_cons]
      split
      · rename_i quiet
        rw [ih]
        exact ⟨fun rest => ⟨changeWith_none_iff.mp quiet, rest⟩, fun all => all.2⟩
      · rename_i loud
        exact ⟨fun quiet => absurd quiet loud, fun all => changeWith_none_iff.mpr all.1⟩

theorem firstChange_found {lines : List (Nat × Line K)} (loud : firstChange lines ≠ .ok none) :
    ∃ a b, [a, b].Sublist lines ∧ pairChange a b = firstChange lines := by
  induction lines with
  | nil => exact absurd rfl loud
  | cons line others ih =>
      simp only [firstChange] at loud ⊢
      split at loud
      · obtain ⟨a, b, pair, found⟩ := ih loud
        exact ⟨a, b, pair.cons line, found⟩
      · rename_i loudHere
        obtain ⟨other, member, found⟩ := changeWith_found loudHere
        exact ⟨line, other, List.Sublist.cons_cons line (List.singleton_sublist.mpr member), found⟩

theorem Layout.nextChange_pair {layout : Layout K} (loud : layout.nextChange ≠ .ok none) :
    ∃ a ∈ layout.lines, ∃ b ∈ layout.lines, a.1 < b.1 ∧ pairChange a b = layout.nextChange := by
  obtain ⟨a, b, pair, found⟩ := firstChange_found loud
  have earlier : a.1 < b.1 :=
    (List.pairwise_cons.mp (layout.lines_ordered.sublist pair)).1 b List.mem_cons_self
  exact ⟨a, pair.subset List.mem_cons_self, b,
    pair.subset (List.mem_cons_of_mem _ List.mem_cons_self), earlier, found⟩

end Scans

namespace Layout

theorem nextChange_found {layout : Layout ℚ} (loud : layout.nextChange ≠ .ok none) :
    ∃ upper ∈ layout.lines, ∃ lower ∈ layout.lines,
      Over upper lower ∧ upper.1 ≠ lower.1 ∧ stackChange upper lower = layout.nextChange := by
  obtain ⟨a, first, b, second, earlier, found⟩ := nextChange_pair loud
  rcases pairChange_eq earlier with ⟨above, asked⟩ | ⟨above, asked⟩
  · exact ⟨a, first, b, second, above, earlier.ne, asked.symm.trans found⟩
  · exact ⟨b, second, a, first, above, earlier.ne', asked.symm.trans found⟩

theorem pairChange_none {layout : Layout ℚ} (quiet : layout.nextChange = .ok none)
    {a b : Nat × Line ℚ} (first : a ∈ layout.lines) (second : b ∈ layout.lines)
    (earlier : a.1 < b.1) : pairChange a b = .ok none := by
  have forward : layout.lines.Pairwise fun a b => a.1 < b.1 → pairChange a b = .ok none := by
    apply (firstChange_none_iff.mp quiet).imp
    intro a b known _
    exact known
  have backward : layout.lines.Pairwise
      (flip fun a b => a.1 < b.1 → pairChange a b = .ok none) := by
    apply layout.lines_ordered.imp
    intro a b ordered later
    exact absurd later (lt_asymm ordered)
  exact forward.forall_of_forall_of_flip (fun _ _ loop => absurd loop (lt_irrefl _)) backward
    first second earlier

theorem nextChange_none {layout : Layout ℚ} (quiet : layout.nextChange = .ok none)
    {upper lower : Nat × Line ℚ} (upperListed : upper ∈ layout.lines)
    (lowerListed : lower ∈ layout.lines) (above : Over upper lower) :
    stackChange upper lower = .ok none := by
  rcases Nat.lt_trichotomy upper.1 lower.1 with earlier | same | later
  · rcases pairChange_eq earlier with ⟨_, asked⟩ | ⟨below, _⟩
    · rw [← asked]
      exact pairChange_none quiet upperListed lowerListed earlier
    · exact absurd below above.asymm
  · have found := mem_lines.mp upperListed
    rw [same, mem_lines.mp lowerListed, Option.some.injEq] at found
    have loop : upper = lower := Prod.ext same found.symm
    rw [loop] at above
    exact absurd above above.asymm
  · rcases pairChange_eq later with ⟨below, _⟩ | ⟨_, asked⟩
    · exact absurd below above.asymm
    · rw [← asked]
      exact pairChange_none quiet lowerListed upperListed later

theorem nextChange_cut {layout : Layout ℚ} {handle : Nat} {x : ℚ}
    (asked : layout.nextChange = .ok (some (.cut handle x))) :
    ∃ line, layout.line? handle = some line ∧
      ∃ other ∈ layout.lines, Overhang line other.2 x := by
  have loud : layout.nextChange ≠ .ok none := by simp [asked]
  obtain ⟨upper, upperListed, lower, lowerListed, _, _, found⟩ := nextChange_found loud
  rw [asked] at found
  obtain ⟨crowded, change⟩ := stackChange_some found
  rcases crowded.alignment_cases (upper.2.y - lower.2.y) with
    ⟨place, aligned, overhang⟩ | ⟨place, aligned, overhang⟩ | ⟨aligned, _⟩
  · rw [aligned, Change.cut.injEq] at change
    obtain ⟨rfl, rfl⟩ := change
    exact ⟨upper.2, mem_lines.mp upperListed, lower, lowerListed, overhang⟩
  · rw [aligned, Change.cut.injEq] at change
    obtain ⟨rfl, rfl⟩ := change
    exact ⟨lower.2, mem_lines.mp lowerListed, upper, upperListed, overhang⟩
  · simp [aligned] at change

theorem nextChange_split {layout : Layout ℚ} {upper lower : Nat} {distance : ℚ}
    (asked : layout.nextChange = .ok (some (.split upper lower distance))) :
    upper ≠ lower ∧ ∃ up low, layout.line? upper = some up ∧ layout.line? lower = some low ∧
      distance = up.y - low.y ∧ Crowded up low ∧ Aligned up low := by
  have loud : layout.nextChange ≠ .ok none := by simp [asked]
  obtain ⟨first, upperListed, second, lowerListed, _, different, found⟩ := nextChange_found loud
  rw [asked] at found
  obtain ⟨crowded, change⟩ := stackChange_some found
  rcases crowded.alignment_cases (first.2.y - second.2.y) with
    ⟨place, aligned, _⟩ | ⟨place, aligned, _⟩ | ⟨aligned, level⟩
  · simp [aligned] at change
  · simp [aligned] at change
  · rw [aligned, Change.split.injEq] at change
    obtain ⟨rfl, rfl, rfl⟩ := change
    exact ⟨different, first.2, second.2, mem_lines.mp upperListed, mem_lines.mp lowerListed, rfl,
      crowded, level⟩

theorem nextChange_error {layout : Layout ℚ} {failure : Failure ℚ}
    (asked : layout.nextChange = .error failure) :
    ∃ upper lower, failure = .strongConflict upper lower := by
  have loud : layout.nextChange ≠ .ok none := by simp [asked]
  obtain ⟨upper, _, lower, _, _, _, found⟩ := nextChange_found loud
  exact ⟨_, _, stackChange_error (found.trans asked)⟩

end Layout

end Waveguide
