import Mathlib
import Waveguide.Proofs.Settling

/-!
Settling does not depend on the places of lines, only on their order: a scan over renumbered lines
asks for the renumbered change. Nor does a scan notice lines that are disjoint from all that it
could find: it asks for the same change without them.
-/

namespace Waveguide

def Attachment.retarget (targets : Nat → Nat) (attachment : Attachment ℚ) : Attachment ℚ :=
  { attachment with target := targets attachment.target }

def Endpoint.retarget (targets : Nat → Nat) (endpoint : Endpoint ℚ) : Endpoint ℚ :=
  { endpoint with attachment := endpoint.attachment.map (·.retarget targets) }

/-- How handles are renumbered: those of lines, and those of what the ends of lines are attached
to. -/
structure Numbering where
  places : Nat → Nat
  targets : Nat → Nat

namespace Numbering

variable (numbering : Numbering)

def line (line : Line ℚ) : Line ℚ :=
  { line with
    start := line.start.retarget numbering.targets
    finish := line.finish.retarget numbering.targets
    parent := line.parent.map numbering.places }

def entry (entry : Nat × Line ℚ) : Nat × Line ℚ :=
  (numbering.places entry.1, numbering.line entry.2)

def change : Change ℚ → Change ℚ
  | .cut handle x => .cut (numbering.places handle) x
  | .split upper lower distance =>
      .split (numbering.places upper) (numbering.places lower) distance

def outcome (outcome : Except (Failure ℚ) (Option (Change ℚ))) :
    Except (Failure ℚ) (Option (Change ℚ)) :=
  outcome.map (Option.map numbering.change)

section Outcome

variable {numbering : Numbering} {asked : Except (Failure ℚ) (Option (Change ℚ))}

theorem outcome_none (same : numbering.outcome asked = .ok none) : asked = .ok none := by
  match asked with
  | .error _ => contradiction
  | .ok none => rfl
  | .ok (some _) => simp [outcome, Except.map] at same

theorem outcome_error {failure : Failure ℚ} (same : numbering.outcome asked = .error failure) :
    asked = .error failure := by
  match asked with
  | .error _ => exact congrArg Except.error (Except.error.inj same)
  | .ok _ => contradiction

theorem outcome_some {change : Change ℚ} (same : numbering.outcome asked = .ok (some change)) :
    ∃ before, asked = .ok (some before) ∧ numbering.change before = change := by
  match asked with
  | .error _ => contradiction
  | .ok none => simp [outcome, Except.map] at same
  | .ok (some before) => exact ⟨before, rfl, Option.some.inj (Except.ok.inj same)⟩

theorem change_cut {before : Change ℚ} {handle : Nat} {x : ℚ}
    (same : numbering.change before = .cut handle x) :
    ∃ place, before = .cut place x ∧ numbering.places place = handle := by
  cases before with
  | cut place y =>
      obtain ⟨rfl, rfl⟩ := Change.cut.inj same
      exact ⟨place, rfl, rfl⟩
  | split => contradiction

theorem change_split {before : Change ℚ} {upper lower : Nat} {distance : ℚ}
    (same : numbering.change before = .split upper lower distance) :
    ∃ high low, before = .split high low distance ∧
      numbering.places high = upper ∧ numbering.places low = lower := by
  cases before with
  | cut => contradiction
  | split high low between =>
      obtain ⟨rfl, rfl, rfl⟩ := Change.split.inj same
      exact ⟨high, low, rfl, rfl, rfl⟩

end Outcome

def extend (place newPlace : Nat) : Numbering :=
  { numbering with places := Function.update numbering.places place newPlace }

@[simp] theorem extend_places_self (place newPlace : Nat) :
    (numbering.extend place newPlace).places place = newPlace := by
  simp [extend]

theorem extend_places_of_ne {place other : Nat} (newPlace : Nat) (different : other ≠ place) :
    (numbering.extend place newPlace).places other = numbering.places other := by
  simp [extend, different]

theorem extend_line {line : Line ℚ} {place : Nat} (newPlace : Nat)
    (unrelated : line.parent ≠ some place) :
    (numbering.extend place newPlace).line line = numbering.line line := by
  have parent : line.parent.map (numbering.extend place newPlace).places =
      line.parent.map numbering.places := by
    cases known : line.parent with
    | none => rfl
    | some parent =>
        have apart : parent ≠ place := fun same => unrelated (known.trans (congrArg some same))
        exact congrArg some (numbering.extend_places_of_ne newPlace apart)
  simp only [Numbering.line, parent]
  rfl

theorem extend_entry {entry : Nat × Line ℚ} {place : Nat} (newPlace : Nat)
    (fresh : entry.1 ≠ place) (unrelated : entry.2.parent ≠ some place) :
    (numbering.extend place newPlace).entry entry = numbering.entry entry :=
  Prod.ext (numbering.extend_places_of_ne newPlace fresh)
    (numbering.extend_line newPlace unrelated)

theorem line_skipAt (line : Line ℚ) (x : ℚ) :
    (numbering.line line).skipAt x = line.skipAt x := by
  simp only [Line.skipAt]
  rfl

theorem line_rightPart (whole : Line ℚ) (x : ℚ) (parent : Nat) :
    (numbering.line whole).rightPart x (numbering.places parent) =
      numbering.line (whole.rightPart x parent) := by
  simp only [Line.rightPart, line_skipAt]
  rfl

theorem entry_fragment (whole : Line ℚ) (x : ℚ) {handle place : Nat} (newPlace : Nat)
    (old : handle ≠ place) :
    (numbering.extend place newPlace).entry (place, whole.rightPart x handle) =
      (newPlace, (numbering.line whole).rightPart x (numbering.places handle)) := by
  refine Prod.ext (numbering.extend_places_self _ _) ?_
  rw [numbering.line_rightPart]
  exact numbering.extend_line newPlace fun itself => old (Option.some.inj itself)

theorem alignment_entry (upper lower : Nat × Line ℚ) (distance : ℚ) :
    alignment (numbering.entry upper) (numbering.entry lower) distance =
      numbering.change (alignment upper lower distance) := by
  simp only [alignment, apply_ite numbering.change]
  rfl

theorem stackChange_entry (upper lower : Nat × Line ℚ) :
    stackChange (numbering.entry upper) (numbering.entry lower) =
      numbering.outcome (stackChange upper lower) := by
  simp only [stackChange, alignment_entry, apply_ite numbering.outcome]
  rfl

theorem pairChange_entry (a b : Nat × Line ℚ) :
    pairChange (numbering.entry a) (numbering.entry b) =
      numbering.outcome (pairChange a b) := by
  by_cases above : b.2.y < a.2.y
  · have kept : (numbering.entry b).2.y < (numbering.entry a).2.y := above
    rw [pairChange_of_above above, pairChange_of_above kept, stackChange_entry]
  · have kept : ¬ (numbering.entry b).2.y < (numbering.entry a).2.y := above
    rw [pairChange_of_not_above above, pairChange_of_not_above kept, stackChange_entry]

theorem changeWith_entries (line : Nat × Line ℚ) (others : List (Nat × Line ℚ)) :
    changeWith (numbering.entry line) (others.map numbering.entry) =
      numbering.outcome (changeWith line others) := by
  induction others with
  | nil => rfl
  | cons other others ih =>
      rw [List.map_cons, changeWith, changeWith, numbering.pairChange_entry, ih]
      cases pairChange line other with
      | error failure => rfl
      | ok change => cases change <;> rfl

theorem firstChange_entries (lines : List (Nat × Line ℚ)) :
    firstChange (lines.map numbering.entry) = numbering.outcome (firstChange lines) := by
  induction lines with
  | nil => rfl
  | cons line others ih =>
      rw [List.map_cons, firstChange, firstChange, numbering.changeWith_entries, ih]
      cases changeWith line others with
      | error failure => rfl
      | ok change => cases change <;> rfl

end Numbering

section Sides

variable {side : Nat × Line ℚ → Bool} {lines : List (Nat × Line ℚ)}

theorem changeWith_filter {line : Nat × Line ℚ}
    (quiet : ∀ other ∈ lines, side other = false → pairChange line other = .ok none) :
    changeWith line (lines.filter side) = changeWith line lines := by
  induction lines with
  | nil => rfl
  | cons other others ih =>
      rw [List.forall_mem_cons] at quiet
      cases kept : side other with
      | true => rw [List.filter_cons_of_pos kept, changeWith, changeWith, ih quiet.2]
      | false =>
          rw [List.filter_cons_of_neg (by simp [kept]), changeWith, quiet.1 kept, ih quiet.2]

theorem firstChange_filter_none (quiet : firstChange lines = .ok none) :
    firstChange (lines.filter side) = .ok none :=
  firstChange_none_iff.mpr ((firstChange_none_iff.mp quiet).filter _)

/-- If no line of one side asks for a change with one of the other, the first change that lines of
both sides ask for is the first change on one side. -/
theorem firstChange_side (inside : Nat × Line ℚ → Bool)
    (quiet : ∀ a ∈ lines, ∀ b ∈ lines, inside a ≠ inside b → pairChange a b = .ok none)
    (loud : firstChange lines ≠ .ok none) :
    ∃ kept, firstChange (lines.filter fun entry => inside entry == kept) = firstChange lines := by
  induction lines with
  | nil => exact absurd rfl loud
  | cons line others ih =>
      have restQuiet : ∀ a ∈ others, ∀ b ∈ others, inside a ≠ inside b →
          pairChange a b = .ok none := fun a first b second =>
        quiet a (List.mem_cons_of_mem _ first) b (List.mem_cons_of_mem _ second)
      have own : ∀ kept, (inside line == kept) = true →
          changeWith line (others.filter fun entry => inside entry == kept) =
            changeWith line others := by
        intro kept same
        apply changeWith_filter
        intro other member foreign
        refine quiet line List.mem_cons_self other (List.mem_cons_of_mem _ member) ?_
        rintro alike
        rw [← alike, same] at foreign
        contradiction
      by_cases found : changeWith line others = .ok none
      · rw [firstChange, found] at loud ⊢
        obtain ⟨kept, asked⟩ := ih restQuiet loud
        refine ⟨kept, ?_⟩
        by_cases same : (inside line == kept) = true
        · rw [List.filter_cons, if_pos same, firstChange, own kept same, found]
          exact asked
        · rw [List.filter_cons, if_neg same]
          exact asked
      · refine ⟨inside line, ?_⟩
        have same : (inside line == inside line) = true := beq_self_eq_true _
        rw [List.filter_cons, if_pos same, firstChange, own _ same, firstChange]
        split
        · contradiction
        · rfl

end Sides

end Waveguide
