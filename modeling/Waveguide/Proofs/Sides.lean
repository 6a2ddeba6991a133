import Mathlib
import Waveguide.Proofs.Locality

/-!
A layout whose lines fall into two sides that share no part of the x-range. No line asks for a
change with one of the other side, so each change made to the whole is the next change on its own
side, and the run of the whole is made up of the runs of the two sides.
-/

namespace Waveguide

namespace Line

structure Inside (inner outer : Line ℚ) : Prop where
  left : outer.minX ≤ inner.minX
  right : inner.maxX ≤ outer.maxX

theorem Inside.refl (line : Line ℚ) : line.Inside line := ⟨le_rfl, le_rfl⟩

theorem Inside.trans {a b c : Line ℚ} (first : a.Inside b) (second : b.Inside c) : a.Inside c :=
  ⟨second.left.trans first.left, first.right.trans second.right⟩

theorem inside_leftPart {line : Line ℚ} {x : ℚ}
    (within : line.start.x < x ∧ x < line.finish.x) : (line.leftPart x).Inside line :=
  ⟨(minX_leftPart within).ge, (maxX_leftPart within).le.trans (range_inside within).2.le⟩

theorem inside_rightPart {line : Line ℚ} {x : ℚ}
    (within : line.start.x < x ∧ x < line.finish.x) (parent : Nat) :
    (line.rightPart x parent).Inside line :=
  ⟨(range_inside within).1.le.trans (minX_rightPart within parent).ge,
    (maxX_rightPart within parent).le⟩

theorem Inside.disjoint {a b first second : Line ℚ} (aInside : a.Inside first)
    (bInside : b.Inside second) (disjoint : first.disjoint second = true) :
    a.disjoint b = true := by
  simp only [Line.disjoint, Bool.or_eq_true, decide_eq_true_eq] at disjoint ⊢
  rcases disjoint with before | behind
  · exact Or.inl (aInside.right.trans (before.trans bInside.left))
  · exact Or.inr (bInside.right.trans (behind.trans aInside.left))

end Line

theorem pairChange_of_disjoint {a b : Nat × Line ℚ} (disjoint : a.2.disjoint b.2 = true) :
    pairChange a b = .ok none :=
  if_pos disjoint

structure Numbering.Extends (after before : Numbering) (count : Nat) : Prop where
  targets : after.targets = before.targets
  places : ∀ place < count, after.places place = before.places place

theorem Numbering.Extends.extend {after before : Numbering} {count place : Nat}
    (known : after.Extends before count) (fresh : count ≤ place) (newPlace : Nat) :
    (after.extend place newPlace).Extends before count where
  targets := known.targets
  places other old := by
    rw [after.extend_places_of_ne newPlace (old.trans_le fresh).ne]
    exact known.places other old

namespace Layout

theorem SettlingWith.inside_root {admits : Line ℚ → ℚ → Prop} {layout state : Layout ℚ}
    {cuts : Nat} (run : SettlingWith admits layout cuts state) (declared : layout.Declared) :
    ∀ handle line, state.line? handle = some line →
      ∃ original, layout.line? (state.root handle) = some original ∧ line.Inside original := by
  refine run.along_roots declared ?_ ?_ ?_
  · exact fun _ line _ => .refl line
  · intro original line x parent within inside
    exact ⟨(Line.inside_leftPart within).trans inside,
      (Line.inside_rightPart within parent).trans inside⟩
  · intro a b first second up low _ _ _ _ _ firstInside secondInside
    exact ⟨⟨firstInside.left, firstInside.right⟩, ⟨secondInside.left, secondInside.right⟩⟩

/-- A layout, its lines divided into two sides that are disjoint, and for each side a layout that
holds just its lines in the same order. -/
structure Division (layout : Layout ℚ) (side : Nat → Bool) (parts : Bool → Layout ℚ)
    (numbering : Bool → Numbering) : Prop where
  disjoint : ∀ a ∈ layout.lines, ∀ b ∈ layout.lines, side a.1 ≠ side b.1 →
    a.2.disjoint b.2 = true
  lines : ∀ kept, layout.lines.filter (fun entry => side entry.1 == kept) =
    (parts kept).lines.map (numbering kept).entry

section Only

def only (layout : Layout ℚ) (side : Nat → Bool) (kept : Bool) : Layout ℚ :=
  { layout with
    elements := (layout.lines.filter fun entry => side entry.1 == kept).map fun entry =>
      .line entry.2 }

def placesOf (layout : Layout ℚ) (side : Nat → Bool) (kept : Bool) : Numbering where
  places place :=
    ((layout.lines.filter fun entry => side entry.1 == kept)[place]?).elim 0 Prod.fst
  targets := id

theorem map_entry_linesFrom {numbering : Numbering} {entries : List (Nat × Line ℚ)} {first : Nat}
    (places : ∀ index entry, entries[index]? = some entry →
      numbering.places (first + index) = entry.1)
    (lines : ∀ entry ∈ entries, numbering.line entry.2 = entry.2) :
    (linesFrom first (entries.map fun entry => .line entry.2)).map numbering.entry = entries := by
  induction entries generalizing first with
  | nil => rfl
  | cons entry entries ih =>
      rw [List.forall_mem_cons] at lines
      have here : numbering.entry (first, entry.2) = entry :=
        Prod.ext (places 0 entry rfl) lines.1
      have later : ∀ index other, entries[index]? = some other →
          numbering.places (first + 1 + index) = other.1 := by
        intro index other found
        rw [Nat.add_assoc, Nat.add_comm 1]
        exact places (index + 1) other found
      rw [List.map_cons, linesFrom, List.map_cons, here, ih later lines.2]

theorem Endpoint.retarget_id (endpoint : Endpoint ℚ) : endpoint.retarget id = endpoint := by
  have same : (Attachment.retarget id : Attachment ℚ → Attachment ℚ) = id := rfl
  rw [Endpoint.retarget, same, Option.map_id]
  rfl

theorem division_only {layout : Layout ℚ} {side : Nat → Bool} (declared : layout.Declared)
    (disjoint : ∀ a ∈ layout.lines, ∀ b ∈ layout.lines, side a.1 ≠ side b.1 →
      a.2.disjoint b.2 = true) :
    layout.Division side (layout.only side) (layout.placesOf side) where
  disjoint := disjoint
  lines kept := by
    refine (map_entry_linesFrom ?_ ?_).symm
    · intro index entry found
      rw [Nat.zero_add, placesOf]
      simp only [found, Option.elim_some]
    · intro entry member
      have parent := (declared.line (mem_lines.mp (List.mem_of_mem_filter member))).parent
      simp only [Numbering.line, placesOf, Endpoint.retarget_id, parent, Option.map_none]
      rw [← parent]

end Only

/-- A run of a part that has come, with so many cuts, to where it mirrors its side of the whole. -/
def Projected (side : Nat → Bool) (kept : Bool) (numbering : Numbering) (start : Layout ℚ)
    (cuts : Nat) (whole : Layout ℚ) : Prop :=
  ∃ part renumbered, Settling start cuts part ∧
    Numbering.Extends renumbered numbering start.elements.length ∧
    Mirrors side kept renumbered whole part

namespace Projected

variable {side : Nat → Bool} {kept : Bool} {numbering : Numbering} {start whole : Layout ℚ}
variable {cuts : Nat}

theorem afterCut (projected : Projected side kept numbering start cuts whole)
    (declared : start.Declared) (parented : whole.Parented) {handle : Nat} {x : ℚ} {line : Line ℚ}
    (asked : firstChange (whole.family side kept) = .ok (some (.cut handle x)))
    (found : whole.line? handle = some line) :
    side (whole.root handle) = kept ∧
      Projected side kept numbering start (cuts + 1)
        (whole.afterCut handle (line.leftPart x) (line.rightPart x handle)) := by
  obtain ⟨part, renumbered, run, known, mirrors⟩ := projected
  rw [mirrors.firstChange_eq] at asked
  obtain ⟨change, partAsked, same⟩ := Numbering.outcome_some asked
  obtain ⟨place, rfl, rfl⟩ := Numbering.change_cut same
  obtain ⟨partLine, step⟩ := nextChange_cutStep partAsked
  obtain ⟨wholeFound, own⟩ := mirrors.line? step.found
  obtain rfl := Option.some.inj (found.symm.trans wholeFound)
  have done := step.cutLine_eq (run.sound declared.allSound place partLine step.found)
  have fresh : start.elements.length ≤ part.elements.length := by
    rw [run.untouched.count]
    exact Nat.le_add_right _ _
  exact ⟨own, _, _, .cut run partAsked step.found trivial done, known.extend fresh _,
    mirrors.afterCut parented (run.parented declared) step.found x⟩

theorem afterSplit (projected : Projected side kept numbering start cuts whole)
    {upper lower : Nat} {distance : ℚ} {up low : Line ℚ}
    (asked : firstChange (whole.family side kept) = .ok (some (.split upper lower distance)))
    (step : whole.SplitStep upper lower up low) :
    (side (whole.root upper) = kept ∧ side (whole.root lower) = kept) ∧
      Projected side kept numbering start cuts (whole.afterSplit upper lower up low) := by
  obtain ⟨part, renumbered, run, known, mirrors⟩ := projected
  rw [mirrors.firstChange_eq] at asked
  obtain ⟨change, partAsked, same⟩ := Numbering.outcome_some asked
  obtain ⟨high, deep, rfl, rfl, rfl⟩ := Numbering.change_split same
  obtain ⟨partUp, partLow, partStep, done⟩ := nextChange_splitStep partAsked
  obtain ⟨upperFound, upperOwn⟩ := mirrors.line? partStep.upper
  obtain ⟨lowerFound, lowerOwn⟩ := mirrors.line? partStep.lower
  obtain rfl := Option.some.inj (step.upper.symm.trans upperFound)
  obtain rfl := Option.some.inj (step.lower.symm.trans lowerFound)
  have next : Settling start cuts (part.afterSplit high deep partUp partLow) := by
    rw [← done]
    exact .split run partAsked
  exact ⟨⟨upperOwn, lowerOwn⟩, _, _, next, known, mirrors.afterSplit partStep⟩

theorem afterForeignCut (projected : Projected side kept numbering start cuts whole)
    (parented : whole.Parented) {handle : Nat} {line : Line ℚ}
    (found : whole.line? handle = some line) (foreign : side (whole.root handle) ≠ kept) (x : ℚ) :
    Projected side kept numbering start cuts
      (whole.afterCut handle (line.leftPart x) (line.rightPart x handle)) := by
  obtain ⟨part, renumbered, run, known, mirrors⟩ := projected
  exact ⟨part, renumbered, run, known, mirrors.afterForeignCut parented found foreign x⟩

theorem afterForeignSplit (projected : Projected side kept numbering start cuts whole)
    {upper lower : Nat} {up low : Line ℚ} (step : whole.SplitStep upper lower up low)
    (upperForeign : side (whole.root upper) ≠ kept)
    (lowerForeign : side (whole.root lower) ≠ kept) :
    Projected side kept numbering start cuts (whole.afterSplit upper lower up low) := by
  obtain ⟨part, renumbered, run, known, mirrors⟩ := projected
  exact ⟨part, renumbered, run, known,
    mirrors.afterForeignSplit step upperForeign lowerForeign⟩

end Projected

namespace Division

variable {layout state : Layout ℚ} {side : Nat → Bool} {parts : Bool → Layout ℚ}
variable {numbering : Bool → Numbering} {cuts : Nat}

theorem mirrors (division : layout.Division side parts numbering) (declared : layout.Declared)
    (kept : Bool) : Mirrors side kept (numbering kept) layout (parts kept) := by
  unfold Mirrors family
  simp only [root_of_declared declared]
  exact division.lines kept

theorem declared (division : layout.Division side parts numbering) (declared : layout.Declared)
    (kept : Bool) : (parts kept).Declared :=
  (division.mirrors declared kept).declared declared

theorem apart (division : layout.Division side parts numbering) (declared : layout.Declared)
    (run : Settling layout cuts state) :
    ∀ a ∈ state.lines, ∀ b ∈ state.lines, side (state.root a.1) ≠ side (state.root b.1) →
      a.2.disjoint b.2 = true := by
  intro a first b second different
  obtain ⟨firstRoot, firstKnown, firstInside⟩ :=
    run.inside_root declared a.1 a.2 (mem_lines.mp first)
  obtain ⟨secondRoot, secondKnown, secondInside⟩ :=
    run.inside_root declared b.1 b.2 (mem_lines.mp second)
  have roots := division.disjoint (state.root a.1, firstRoot) (mem_lines.mpr firstKnown)
    (state.root b.1, secondRoot) (mem_lines.mpr secondKnown) different
  exact firstInside.disjoint secondInside roots

theorem asks (division : layout.Division side parts numbering) (declared : layout.Declared)
    (run : Settling layout cuts state) (loud : state.nextChange ≠ .ok none) :
    ∃ kept, firstChange (state.family side kept) = state.nextChange := by
  refine firstChange_side (fun entry => side (state.root entry.1)) ?_ loud
  intro a first b second different
  exact pairChange_of_disjoint (division.apart declared run a first b second different)

/-- Where settling the whole has come to, settling each side has come to as well, and the cuts made
on both sides are all cuts made. -/
theorem projects (division : layout.Division side parts numbering) (declared : layout.Declared)
    (run : Settling layout cuts state) :
    ∃ counts : Bool → Nat, cuts = counts true + counts false ∧
      ∀ kept, Projected side kept (numbering kept) (parts kept) (counts kept) state := by
  -- Along the run of the whole: each change is a step on its own side and none on the other.
  induction run with
  | start =>
      refine ⟨fun _ => 0, rfl, ?_⟩
      intro kept
      exact ⟨parts kept, numbering kept, .start, ⟨rfl, fun _ _ => rfl⟩,
        division.mirrors declared kept⟩
  | @cut cuts whole handle x line next run asked found _ done ih =>
      obtain ⟨counts, sum, projected⟩ := ih
      have parented := run.parented declared
      obtain ⟨own, sideAsked⟩ := division.asks declared run (by simp [asked])
      rw [asked] at sideAsked
      obtain ⟨here, advanced⟩ :=
        (projected own).afterCut (division.declared declared own) parented sideAsked found
      rw [cutLine_some found done]
      refine ⟨Function.update counts own (counts own + 1), ?_, ?_⟩
      · cases own with
        | true =>
            rw [Function.update_self, Function.update_of_ne Bool.false_ne_true]
            omega
        | false =>
            rw [Function.update_self, Function.update_of_ne Bool.false_ne_true.symm]
            omega
      · intro kept
        by_cases same : kept = own
        · subst same
          rw [Function.update_self]
          exact advanced
        · rw [Function.update_of_ne same]
          have foreign : side (whole.root handle) ≠ kept := fun also => same (also ▸ here)
          exact (projected kept).afterForeignCut parented found foreign x
  | @split cuts whole upper lower distance run asked ih =>
      obtain ⟨counts, sum, projected⟩ := ih
      obtain ⟨own, sideAsked⟩ := division.asks declared run (by simp [asked])
      rw [asked] at sideAsked
      obtain ⟨up, low, step, done⟩ := nextChange_splitStep asked
      obtain ⟨⟨upperHere, lowerHere⟩, advanced⟩ := (projected own).afterSplit sideAsked step
      rw [done]
      refine ⟨counts, sum, ?_⟩
      intro kept
      by_cases same : kept = own
      · subst same
        exact advanced
      · exact (projected kept).afterForeignSplit step (fun also => same (also ▸ upperHere))
          (fun also => same (also ▸ lowerHere))

theorem settled (division : layout.Division side parts numbering) (declared : layout.Declared)
    (run : Settling layout cuts state) (quiet : state.nextChange = .ok none) :
    ∃ counts : Bool → Nat, cuts = counts true + counts false ∧
      ∀ kept, (parts kept).settle.2 = .ok (counts kept) ∧
        ∃ renumbered, Numbering.Extends renumbered (numbering kept) (parts kept).elements.length ∧
          state.family side kept = (parts kept).settle.1.lines.map renumbered.entry := by
  obtain ⟨counts, sum, projected⟩ := division.projects declared run
  refine ⟨counts, sum, ?_⟩
  intro kept
  obtain ⟨part, renumbered, partRun, known, mirrors⟩ := projected kept
  have partQuiet : part.nextChange = .ok none :=
    Numbering.outcome_none (mirrors.firstChange_eq.symm.trans (firstChange_filter_none quiet))
  have same := Ended.eq_settle (division.declared declared kept).allSound
    (.settled partRun partQuiet)
  rw [← same]
  exact ⟨rfl, renumbered, known, mirrors⟩

theorem failed (division : layout.Division side parts numbering) (declared : layout.Declared)
    (run : Settling layout cuts state) {failure : Failure ℚ}
    (loud : state.nextChange = .error failure) :
    ∃ kept, (parts kept).settle.2 = .error failure := by
  obtain ⟨counts, _, projected⟩ := division.projects declared run
  obtain ⟨kept, asked⟩ := division.asks declared run (by simp [loud])
  obtain ⟨part, renumbered, partRun, _, mirrors⟩ := projected kept
  rw [mirrors.firstChange_eq, loud] at asked
  have same := Ended.eq_settle (division.declared declared kept).allSound
    (.failed partRun (Numbering.outcome_error asked))
  exact ⟨kept, congrArg Prod.snd same.symm⟩

end Division

/-- What settling a divided layout has to do with settling its sides. -/
structure SettlesApart (layout : Layout ℚ) (side : Nat → Bool) (parts : Bool → Layout ℚ)
    (numbering : Bool → Numbering) : Prop where
  succeeds : (∃ cuts, layout.settle.2 = .ok cuts) ↔
    ∀ kept, ∃ cuts, (parts kept).settle.2 = .ok cuts
  cuts : ∀ cuts, layout.settle.2 = .ok cuts → ∃ counts : Bool → Nat,
    cuts = counts true + counts false ∧ ∀ kept, (parts kept).settle.2 = .ok (counts kept)
  lines : ∀ cuts, layout.settle.2 = .ok cuts → ∀ kept, ∃ renumbered,
    Numbering.Extends renumbered (numbering kept) (parts kept).elements.length ∧
    layout.settle.1.family side kept = (parts kept).settle.1.lines.map renumbered.entry

/-- Settling a layout whose lines are on two disjoint sides is settling each of them. -/
theorem sides_settle_apart {layout : Layout ℚ} {side : Nat → Bool} {parts : Bool → Layout ℚ}
    {numbering : Bool → Numbering} (built : layout.Built)
    (division : layout.Division side parts numbering) :
    layout.SettlesApart side parts numbering := by
  have declared := built.declared
  have ended := settle_ended declared.allSound
  generalize result : layout.settle = settled at ended
  cases ended with
  | @settled total state run quiet =>
      obtain ⟨counts, sum, sides⟩ := division.settled declared run quiet
      have cuts : layout.settle.2 = .ok total := congrArg Prod.snd result
      have lines : layout.settle.1 = state := congrArg Prod.fst result
      exact {
        succeeds := iff_of_true ⟨total, cuts⟩ fun kept => ⟨counts kept, (sides kept).1⟩
        cuts := by
          intro other succeeded
          obtain rfl := Except.ok.inj (cuts.symm.trans succeeded)
          exact ⟨counts, sum, fun kept => (sides kept).1⟩
        lines := by
          intro _ _ kept
          rw [lines]
          exact (sides kept).2 }
  | @failed _ _ failure run loud =>
      obtain ⟨kept, failed⟩ := division.failed declared run loud
      have fails : layout.settle.2 = .error failure := congrArg Prod.snd result
      have never : ∀ cuts, layout.settle.2 ≠ .ok cuts := by simp [fails]
      refine {
        succeeds := iff_of_false (fun ⟨cuts, succeeded⟩ => never cuts succeeded) ?_
        cuts := fun cuts succeeded => absurd succeeded (never cuts)
        lines := fun cuts succeeded => absurd succeeded (never cuts) }
      intro succeed
      obtain ⟨cuts, succeeded⟩ := succeed kept
      simp [failed] at succeeded

def interleavedLayout : Layout ℚ :=
  ofLines [
    .between sampleGuide ⟨0, 0⟩ ⟨30, 0⟩,
    .between sampleGuide ⟨70, 7⟩ ⟨110, 7⟩,
    .between sampleGuide ⟨10, 7⟩ ⟨50, 7⟩,
    .between sampleGuide ⟨60, 0⟩ ⟨90, 0⟩]

def evenSide (handle : Nat) : Bool := handle % 2 == 0

theorem interleavedLayout_apart :
    (interleavedLayout.Built ∧
        interleavedLayout.Division evenSide (interleavedLayout.only evenSide)
          (interleavedLayout.placesOf evenSide)) ∧
      interleavedLayout.settle.2.toOption = some 4 ∧
      interleavedLayout.SettlesApart evenSide (interleavedLayout.only evenSide)
        (interleavedLayout.placesOf evenSide) := by
  have built : interleavedLayout.Built := built_ofLines _
  have disjoint : ∀ a ∈ interleavedLayout.lines, ∀ b ∈ interleavedLayout.lines,
      evenSide a.1 ≠ evenSide b.1 → a.2.disjoint b.2 = true := by
    decide +kernel
  have division := division_only built.declared disjoint
  exact ⟨⟨built, division⟩, by decide +kernel, sides_settle_apart built division⟩

end Layout

end Waveguide
