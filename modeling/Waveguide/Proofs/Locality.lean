import Mathlib
import Waveguide.Proofs.Pieces
import Waveguide.Proofs.Renumbering
import Waveguide.Proofs.Termination

/-!
Settling is local: where lines fall into two sides that share no part of the x-range, settling them
together does to each side what settling that side alone does, change by change and in the same
order, and succeeds if both do.
-/

namespace Waveguide.Layout

section Root

def rootWithin (layout : Layout ℚ) : Nat → Nat → Nat
  | 0, handle => handle
  | links + 1, handle =>
      match layout.parent? handle with
      | none => handle
      | some parent => rootWithin layout links parent

/-- The place of the line that was declared, for whatever was cut from it or from a part of it. -/
def root (layout : Layout ℚ) (handle : Nat) : Nat := layout.rootWithin handle handle

variable {layout : Layout ℚ}

theorem descends_rootWithin (layout : Layout ℚ) (links handle : Nat) :
    layout.Descends (layout.rootWithin links handle) handle := by
  induction links generalizing handle with
  | zero => exact .root
  | succ links ih =>
      rw [rootWithin]
      split
      · exact .root
      · rename_i parent cutFrom
        exact .fragment cutFrom (ih parent)

theorem parent?_rootWithin (parented : layout.Parented) {links handle : Nat}
    (enough : handle ≤ links) : layout.parent? (layout.rootWithin links handle) = none := by
  induction links generalizing handle with
  | zero =>
      rw [rootWithin, Option.eq_none_iff_forall_not_mem]
      intro parent cutFrom
      have earlier := parented handle parent cutFrom
      omega
  | succ links ih =>
      rw [rootWithin]
      split
      · assumption
      · rename_i parent cutFrom
        have earlier := parented handle parent cutFrom
        exact ih (by omega)

theorem Descends.le (parented : layout.Parented) {root handle : Nat}
    (descends : layout.Descends root handle) : root ≤ handle := by
  induction descends with
  | root => exact le_rfl
  | fragment cutFrom _ ih => exact ih.trans (parented _ _ cutFrom).le

theorem Descends.unique {first second handle : Nat} (descends : layout.Descends first handle)
    (other : layout.Descends second handle) (firstTop : layout.parent? first = none)
    (secondTop : layout.parent? second = none) : first = second := by
  induction descends with
  | root =>
      cases other with
      | root => rfl
      | fragment cutFrom _ => simp [firstTop] at cutFrom
  | fragment cutFrom _ ih =>
      cases other with
      | root => simp [secondTop] at cutFrom
      | fragment cutToo descends =>
          obtain rfl := Option.some.inj (cutFrom.symm.trans cutToo)
          exact ih descends

theorem root_eq_iff (parented : layout.Parented) {handle root : Nat} :
    layout.root handle = root ↔ layout.Descends root handle ∧ layout.parent? root = none := by
  have descends := descends_rootWithin layout handle handle
  have top := parent?_rootWithin parented (le_refl handle)
  constructor
  · rintro rfl
    exact ⟨descends, top⟩
  · rintro ⟨other, otherTop⟩
    exact descends.unique other top otherTop

theorem root_of_declared (declared : layout.Declared) (handle : Nat) :
    layout.root handle = handle := by
  have parented : layout.Parented := by
    intro place parent impossible
    simp [declared.parent?] at impossible
  exact (root_eq_iff parented).mpr ⟨.root, declared.parent? handle⟩

theorem root_congr {other : Layout ℚ}
    (same : ∀ handle, other.parent? handle = layout.parent? handle) (handle : Nat) :
    other.root handle = layout.root handle := by
  have within : ∀ links place, other.rootWithin links place = layout.rootWithin links place := by
    intro links
    induction links with
    | zero => exact fun _ => rfl
    | succ links ih =>
        intro place
        simp only [rootWithin, same, ih]
  exact within handle handle

theorem parent?_setLine {handle : Nat} {old new : Line ℚ} (found : layout.line? handle = some old)
    (same : new.parent = old.parent) (other : Nat) :
    (layout.setLine handle new).parent? other = layout.parent? other := by
  unfold parent?
  rw [line?_setLine new (line?_bound found)]
  split
  · rename_i here
    rw [here, found]
    exact same
  · rfl

theorem root_afterCut (parented : layout.Parented) {handle other : Nat} {line : Line ℚ}
    (found : layout.line? handle = some line) (x : ℚ) (known : other ≤ layout.elements.length) :
    (layout.afterCut handle (line.leftPart x) (line.rightPart x handle)).root other =
      layout.root (if other = layout.elements.length then handle else other) := by
  have bound := line?_bound found
  have within : (if other = layout.elements.length then handle else other) <
      layout.elements.length := by
    split
    · exact bound
    · omega
  obtain ⟨descends, top⟩ := (root_eq_iff parented).mp
    (rfl : layout.root (if other = layout.elements.length then handle else other) = _)
  have old := (descends.le parented).trans_lt within
  rw [root_eq_iff (parented.afterCut found x), descends_afterCut parented old found,
    parent?_afterCut found, if_neg old.ne]
  exact ⟨descends, top⟩

/-- What a declared line stands in with itself, and then with the parts of what it stands in it
with, it stands in with all that settling makes of it. -/
theorem SettlingWith.along_roots {admits : Line ℚ → ℚ → Prop} {layout state : Layout ℚ} {cuts : Nat}
    {relation : Line ℚ → Line ℚ → Prop} (run : SettlingWith admits layout cuts state)
    (declared : layout.Declared)
    (initially : ∀ handle line, layout.line? handle = some line → relation line line)
    (afterCut : ∀ {original line x} (parent : Nat), line.start.x < x ∧ x < line.finish.x →
      relation original line →
        relation original (line.leftPart x) ∧ relation original (line.rightPart x parent))
    (afterSplit : ∀ {a b first second up low}, layout.line? a = some first →
      layout.line? b = some second → Crowded up low → up.Sound → low.Sound →
      relation first up → relation second low →
        let parts := shares up.clearance low.clearance (up.y - low.y)
        relation first (up.withSoftDown parts.1) ∧ relation second (low.withSoftUp parts.2)) :
    ∀ handle line, state.line? handle = some line →
      ∃ original, layout.line? (state.root handle) = some original ∧ relation original line := by
  have sound := declared.allSound
  refine SettlingWith.along
    (motive := fun _ state => ∀ handle line, state.line? handle = some line →
      ∃ original, layout.line? (state.root handle) = some original ∧ relation original line)
    ?_ ?_ ?_ run
  · intro handle line found
    rw [root_of_declared declared]
    exact ⟨line, found, initially handle line found⟩
  · intro cuts state handle line x run before step _ other piece placed
    have within := step.inside (run.sound sound handle line step.found)
    have parented := run.parented declared
    obtain ⟨original, known, related⟩ := before handle line step.found
    obtain ⟨left, right⟩ := afterCut handle within related
    rw [line?_afterCut _ _ (line?_bound step.found)] at placed
    split at placed
    · rename_i last
      obtain rfl := Option.some.inj placed
      rw [root_afterCut parented step.found x last.le, if_pos last]
      exact ⟨original, known, right⟩
    · rename_i earlier
      split at placed
      · rename_i here
        obtain rfl := Option.some.inj placed
        subst here
        rw [root_afterCut parented step.found x (line?_bound step.found).le, if_neg earlier]
        exact ⟨original, known, left⟩
      · rw [root_afterCut parented step.found x (line?_bound placed).le, if_neg earlier]
        exact before other piece placed
  · intro cuts state upper lower up low run before step other piece placed
    have upSound := run.sound sound upper up step.upper
    have lowSound := run.sound sound lower low step.lower
    obtain ⟨first, firstKnown, firstRelated⟩ := before upper up step.upper
    obtain ⟨second, secondKnown, secondRelated⟩ := before lower low step.lower
    obtain ⟨upNew, lowNew⟩ := afterSplit firstKnown secondKnown step.crowded upSound lowSound
      firstRelated secondRelated
    rw [root_congr (parent?_afterSplit step)]
    rw [line?_afterSplit step] at placed
    split at placed
    · rename_i here
      obtain rfl := Option.some.inj placed
      exact ⟨second, here ▸ secondKnown, lowNew⟩
    · split at placed
      · rename_i here
        obtain rfl := Option.some.inj placed
        exact ⟨first, here ▸ firstKnown, upNew⟩
      · exact before other piece placed

end Root

/-- The lines that were declared on one side and what was cut from them, in their order. -/
def family (layout : Layout ℚ) (side : Nat → Bool) (kept : Bool) : List (Nat × Line ℚ) :=
  layout.lines.filter fun entry => side (layout.root entry.1) == kept

section Family

variable {layout : Layout ℚ} {side : Nat → Bool} {kept : Bool} {handle : Nat}

theorem mem_family {entry : Nat × Line ℚ} :
    entry ∈ layout.family side kept ↔
      layout.line? entry.1 = some entry.2 ∧ side (layout.root entry.1) = kept := by
  rw [family, List.mem_filter, mem_lines, beq_iff_eq]

theorem family_setLine {old new : Line ℚ} (found : layout.line? handle = some old)
    (same : new.parent = old.parent) :
    (layout.setLine handle new).family side kept =
      (layout.family side kept).map (replaceLine handle new) := by
  simp only [family, lines_setLine new found, List.filter_map, Function.comp_def, replaceLine_fst,
    root_congr (parent?_setLine found same)]

theorem family_afterCut (parented : layout.Parented) {line : Line ℚ}
    (found : layout.line? handle = some line) (x : ℚ) :
    (layout.afterCut handle (line.leftPart x) (line.rightPart x handle)).family side kept =
      (layout.family side kept).map (replaceLine handle (line.leftPart x)) ++
        if side (layout.root handle) = kept then
          [(layout.elements.length, line.rightPart x handle)]
        else [] := by
  have last := root_afterCut parented found x le_rfl
  rw [if_pos rfl] at last
  have earlier : ∀ entry ∈ layout.lines,
      (side ((layout.afterCut handle (line.leftPart x) (line.rightPart x handle)).root entry.1) ==
        kept) = (side (layout.root entry.1) == kept) := by
    intro entry listed
    have bound := line?_bound (mem_lines.mp listed)
    rw [root_afterCut parented found x bound.le, if_neg bound.ne]
  simp only [family, lines_afterCut _ _ found, List.filter_append, List.filter_map,
    Function.comp_def, replaceLine_fst, List.filter_congr earlier, List.filter_singleton, last,
    cond_eq_ite, beq_iff_eq]

theorem family_replace_foreign (new : Line ℚ) (foreign : side (layout.root handle) ≠ kept) :
    (layout.family side kept).map (replaceLine handle new) = layout.family side kept := by
  have same : ∀ entry ∈ layout.family side kept, replaceLine handle new entry = entry := by
    intro entry member
    refine if_neg ?_
    rintro rfl
    exact foreign (mem_family.mp member).2
  rw [List.map_congr_left same, List.map_id']

end Family

theorem Parented.entry_extend {layout : Layout ℚ} (parented : layout.Parented)
    (numbering : Numbering) (newPlace : Nat) {entry : Nat × Line ℚ}
    (listed : entry ∈ layout.lines) :
    (numbering.extend layout.elements.length newPlace).entry entry = numbering.entry entry := by
  have placed := mem_lines.mp listed
  refine numbering.extend_entry newPlace (line?_bound placed).ne ?_
  intro cutFrom
  have parent : layout.parent? entry.1 = some layout.elements.length := by
    rw [parent?, placed]
    exact cutFrom
  exact ((parented _ _ parent).trans (parent?_bound parent)).false

/-- A part holds one family of a whole, in its order, with a numbering of its own. -/
def Mirrors (side : Nat → Bool) (kept : Bool) (numbering : Numbering) (whole part : Layout ℚ) :
    Prop :=
  whole.family side kept = part.lines.map numbering.entry

namespace Mirrors

variable {side : Nat → Bool} {kept : Bool} {numbering : Numbering} {whole part : Layout ℚ}

theorem line? (mirrors : Mirrors side kept numbering whole part) {handle : Nat} {line : Line ℚ}
    (found : part.line? handle = some line) :
    whole.line? (numbering.places handle) = some (numbering.line line) ∧
      side (whole.root (numbering.places handle)) = kept := by
  have listed : numbering.entry (handle, line) ∈ whole.family side kept := by
    rw [mirrors]
    exact List.mem_map_of_mem (mem_lines.mpr found)
  exact mem_family.mp listed

theorem places_ne (mirrors : Mirrors side kept numbering whole part) {a b : Nat}
    {first second : Line ℚ} (firstFound : part.line? a = some first)
    (secondFound : part.line? b = some second) (different : a ≠ b) :
    numbering.places a ≠ numbering.places b := by
  have ordered : (whole.family side kept).Pairwise fun a b => a.1 ≠ b.1 :=
    (whole.lines_ordered.filter _).imp fun earlier => earlier.ne
  rw [mirrors, List.pairwise_map] at ordered
  have symmetric : Std.Symm fun a b : Nat × Line ℚ =>
      (numbering.entry a).1 ≠ (numbering.entry b).1 := ⟨fun _ _ apart => apart.symm⟩
  have firstListed : (a, first) ∈ part.lines := mem_lines.mpr firstFound
  have secondListed : (b, second) ∈ part.lines := mem_lines.mpr secondFound
  exact ordered.forall firstListed secondListed fun same => different (congrArg Prod.fst same)

theorem declared (mirrors : Mirrors side kept numbering whole part) (declared : whole.Declared) :
    part.Declared := by
  intro element member line isLine
  obtain ⟨handle, place⟩ := List.mem_iff_getElem?.mp member
  rw [isLine] at place
  have known := declared.line (mirrors.line? (line?_eq_some_iff.mpr place)).1
  exact { known with parent := Option.map_eq_none_iff.mp known.parent }

theorem firstChange_eq (mirrors : Mirrors side kept numbering whole part) :
    firstChange (whole.family side kept) = numbering.outcome part.nextChange := by
  rw [mirrors, numbering.firstChange_entries]
  rfl

theorem setLine (mirrors : Mirrors side kept numbering whole part) {handle : Nat}
    {old new : Line ℚ} (found : part.line? handle = some old) (same : new.parent = old.parent) :
    Mirrors side kept numbering
      (whole.setLine (numbering.places handle) (numbering.line new)) (part.setLine handle new) := by
  unfold Mirrors
  have parents : (numbering.line new).parent = (numbering.line old).parent :=
    congrArg (Option.map numbering.places) same
  rw [family_setLine (mirrors.line? found).1 parents, mirrors, lines_setLine new found,
    List.map_map, List.map_map]
  apply List.map_congr_left
  intro entry listed
  by_cases here : entry.1 = handle
  · simp [replaceLine, Numbering.entry, here]
  · have apart := mirrors.places_ne (mem_lines.mp listed) found here
    simp [replaceLine, Numbering.entry, here, apart]

theorem afterSplit (mirrors : Mirrors side kept numbering whole part) {upper lower : Nat}
    {up low : Line ℚ} (step : part.SplitStep upper lower up low) :
    Mirrors side kept numbering
      (whole.afterSplit (numbering.places upper) (numbering.places lower) (numbering.line up)
        (numbering.line low))
      (part.afterSplit upper lower up low) := by
  let parts := shares up.clearance low.clearance (up.y - low.y)
  have first : Mirrors side kept numbering
      (whole.setLine (numbering.places upper) (numbering.line (up.withSoftDown parts.1)))
      (part.setLine upper (up.withSoftDown parts.1)) := mirrors.setLine step.upper rfl
  have lowKept : (part.setLine upper (up.withSoftDown parts.1)).line? lower = some low :=
    (line?_setLine_of_ne _ step.different.symm).trans step.lower
  have second : Mirrors side kept numbering
      ((whole.setLine (numbering.places upper) (numbering.line (up.withSoftDown parts.1))).setLine
        (numbering.places lower) (numbering.line (low.withSoftUp parts.2)))
      ((part.setLine upper (up.withSoftDown parts.1)).setLine lower (low.withSoftUp parts.2)) :=
    first.setLine lowKept rfl
  exact second

theorem afterCut (mirrors : Mirrors side kept numbering whole part)
    (parented : whole.Parented) (partParented : part.Parented) {handle : Nat} {line : Line ℚ}
    (found : part.line? handle = some line) (x : ℚ) :
    Mirrors side kept (numbering.extend part.elements.length whole.elements.length)
      (whole.afterCut (numbering.places handle) ((numbering.line line).leftPart x)
        ((numbering.line line).rightPart x (numbering.places handle)))
      (part.afterCut handle (line.leftPart x) (line.rightPart x handle)) := by
  obtain ⟨wholeFound, own⟩ := mirrors.line? found
  have same : (line.leftPart x).parent = line.parent := rfl
  have sameRenumbered :
      ((numbering.line line).leftPart x).parent = (numbering.line line).parent := rfl
  have replaced : Mirrors side kept numbering
      (whole.setLine (numbering.places handle) ((numbering.line line).leftPart x))
      (part.setLine handle (line.leftPart x)) := mirrors.setLine found same
  have old : (part.setLine handle (line.leftPart x)).elements.length = part.elements.length :=
    List.length_set
  have replacedParented : (part.setLine handle (line.leftPart x)).Parented := by
    intro other parent cutFrom
    rw [parent?_setLine found same] at cutFrom
    exact partParented other parent cutFrom
  have earlier : ∀ entry ∈ (part.setLine handle (line.leftPart x)).lines,
      numbering.entry entry =
        (numbering.extend part.elements.length whole.elements.length).entry entry := by
    intro entry listed
    rw [← old]
    exact (replacedParented.entry_extend numbering _ listed).symm
  unfold Mirrors at replaced ⊢
  rw [family_afterCut parented wholeFound, if_pos own, ← family_setLine wholeFound sameRenumbered,
    replaced, List.map_congr_left earlier, lines_afterCut _ _ found, ← lines_setLine _ found,
    List.map_append, List.map_singleton, numbering.entry_fragment _ _ _ (line?_bound found).ne]

theorem afterForeignCut (mirrors : Mirrors side kept numbering whole part)
    (parented : whole.Parented) {handle : Nat} {line : Line ℚ}
    (found : whole.line? handle = some line) (foreign : side (whole.root handle) ≠ kept) (x : ℚ) :
    Mirrors side kept numbering
      (whole.afterCut handle (line.leftPart x) (line.rightPart x handle)) part := by
  unfold Mirrors
  rw [family_afterCut parented found, family_replace_foreign _ foreign, if_neg foreign,
    List.append_nil]
  exact mirrors

theorem foreignSetLine (mirrors : Mirrors side kept numbering whole part) {handle : Nat}
    {old new : Line ℚ} (found : whole.line? handle = some old) (same : new.parent = old.parent)
    (foreign : side (whole.root handle) ≠ kept) :
    Mirrors side kept numbering (whole.setLine handle new) part := by
  unfold Mirrors
  rw [family_setLine found same, family_replace_foreign _ foreign]
  exact mirrors

theorem afterForeignSplit (mirrors : Mirrors side kept numbering whole part) {upper lower : Nat}
    {up low : Line ℚ} (step : whole.SplitStep upper lower up low)
    (upperForeign : side (whole.root upper) ≠ kept)
    (lowerForeign : side (whole.root lower) ≠ kept) :
    Mirrors side kept numbering (whole.afterSplit upper lower up low) part := by
  let parts := shares up.clearance low.clearance (up.y - low.y)
  have first : Mirrors side kept numbering (whole.setLine upper (up.withSoftDown parts.1)) part :=
    mirrors.foreignSetLine step.upper rfl upperForeign
  have lowKept : (whole.setLine upper (up.withSoftDown parts.1)).line? lower = some low :=
    (line?_setLine_of_ne _ step.different.symm).trans step.lower
  have lowerStill : side ((whole.setLine upper (up.withSoftDown parts.1)).root lower) ≠ kept := by
    have same : (up.withSoftDown parts.1).parent = up.parent := rfl
    rwa [root_congr (parent?_setLine step.upper same)]
  have done : Mirrors side kept numbering
      ((whole.setLine upper (up.withSoftDown parts.1)).setLine lower (low.withSoftUp parts.2))
      part := first.foreignSetLine lowKept rfl lowerStill
  exact done

end Mirrors

end Waveguide.Layout
