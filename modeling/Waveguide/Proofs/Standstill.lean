import Mathlib
import Waveguide.Proofs.Fittings
import Waveguide.Proofs.Screening

/-!
What a split of padding leads to. The two lines then have what room there is between them, and ask
for nothing more, unless their distance or a hard clearance is not a number. In that case they ask for
the same split again, and it changes nothing any more.
-/

namespace Waveguide

section Pairs

variable {K : Type} [Scalar K]

def askedOf (a b : Nat × Line K) : Except (Failure K) (Option (Change K)) :=
  if a.1 < b.1 then pairChange a b else pairChange b a

theorem alignment_split {upper lower : Nat × Line K} {distance given : K} {up low : Nat}
    (aligned : alignment upper lower distance = .split up low given) :
    up = upper.1 ∧ low = lower.1 ∧ given = distance := by
  simp only [alignment] at aligned
  split at aligned
  · contradiction
  · split at aligned
    · contradiction
    · split at aligned
      · contradiction
      · split at aligned
        · contradiction
        · obtain ⟨rfl, rfl, rfl⟩ := Change.split.inj aligned
          exact ⟨rfl, rfl, rfl⟩

theorem stackChange_split {upper lower : Nat × Line K} {up low : Nat} {distance : K}
    (found : stackChange upper lower = .ok (some (.split up low distance))) :
    (up = upper.1 ∧ low = lower.1 ∧ distance = upper.2.y - lower.2.y) ∧
      ¬ distance < lower.2.clearance.up + upper.2.clearance.down ∧
      ∀ softDown softUp, stackChange (upper.1, upper.2.withSoftDown softDown)
          (lower.1, lower.2.withSoftUp softUp) =
        if softDown + softUp - Scalar.tolerance ≤ distance then .ok none
        else .ok (some (.split up low distance)) := by
  simp only [stackChange] at found
  split at found
  · simp at found
  · rename_i together
    split at found
    · contradiction
    · rename_i apart
      split at found
      · simp at found
      · obtain ⟨rfl, rfl, rfl⟩ := alignment_split (Option.some.inj (Except.ok.inj found))
        refine ⟨⟨rfl, rfl, rfl⟩, apart, ?_⟩
        intro softDown softUp
        rw [← found]
        exact (if_neg together).trans (if_neg apart)

theorem pairChange_split {a b : Nat × Line K} {upper lower : Nat} {distance : K}
    (found : pairChange a b = .ok (some (.split upper lower distance))) :
    (b.2.y < a.2.y ∧ stackChange a b = .ok (some (.split upper lower distance))) ∨
      ¬ b.2.y < a.2.y ∧ stackChange b a = .ok (some (.split upper lower distance)) := by
  by_cases above : b.2.y < a.2.y
  · exact Or.inl ⟨above, (pairChange_of_above above).symm.trans found⟩
  · exact Or.inr ⟨above, (pairChange_of_not_above above).symm.trans found⟩

structure Splitting (upper lower : Nat) (up low : Line K) (distance : K) : Prop where
  different : upper ≠ lower
  asked : askedOf (upper, up) (lower, low) = .ok (some (.split upper lower distance))
  height : distance = up.y - low.y
  apart : ¬ distance < low.clearance.up + up.clearance.down
  again : ∀ softDown softUp,
    askedOf (upper, up.withSoftDown softDown) (lower, low.withSoftUp softUp) =
      if softDown + softUp - Scalar.tolerance ≤ distance then .ok none
      else .ok (some (.split upper lower distance))

theorem splitting_of_asked {a b : Nat × Line K} {upper lower : Nat} {distance : K}
    (earlier : a.1 < b.1) (found : pairChange a b = .ok (some (.split upper lower distance))) :
    ∃ up low, [(upper, up), (lower, low)].Perm [a, b] ∧
      Splitting upper lower up low distance := by
  rcases pairChange_split found with ⟨above, asked⟩ | ⟨notAbove, asked⟩
  · obtain ⟨⟨rfl, rfl, height⟩, apart, again⟩ := stackChange_split asked
    refine ⟨a.2, b.2, .refl _, earlier.ne, (if_pos earlier).trans found, height, apart, ?_⟩
    intro softDown softUp
    rw [← again, askedOf, if_pos earlier]
    exact pairChange_of_above above
  · obtain ⟨⟨rfl, rfl, height⟩, apart, again⟩ := stackChange_split asked
    have later := Nat.lt_asymm earlier
    refine ⟨b.2, a.2, .swap _ _ _, earlier.ne', (if_neg later).trans found, height, apart, ?_⟩
    intro softDown softUp
    rw [← again, askedOf, if_neg later]
    exact pairChange_of_not_above notAbove

namespace Layout

variable {layout : Layout K} {upper lower : Nat} {up low : Line K} {distance : K}

theorem nextChange_splitting
    (asked : layout.nextChange = .ok (some (.split upper lower distance))) :
    ∃ up low, layout.line? upper = some up ∧ layout.line? lower = some low ∧
      Splitting upper lower up low distance := by
  have loud : layout.nextChange ≠ .ok none := by simp [asked]
  obtain ⟨a, first, b, second, earlier, found⟩ := nextChange_pair loud
  obtain ⟨up, low, both, splitting⟩ := splitting_of_asked earlier (found.trans asked)
  have listed : ∀ entry ∈ [(upper, up), (lower, low)], entry ∈ layout.lines := by
    intro entry member
    have one : entry = a ∨ entry = b := by simpa using both.mem_iff.mp member
    rcases one with rfl | rfl
    · exact first
    · exact second
  exact ⟨up, low, mem_lines.mp (listed (upper, up) (by simp)),
    mem_lines.mp (listed (lower, low) (by simp)), splitting⟩

theorem line?_afterSplit_ends (different : upper ≠ lower) (upperFound : layout.line? upper = some up)
    (lowerFound : layout.line? lower = some low) :
    (layout.afterSplit upper lower up low).line? upper =
        some (up.withSoftDown (shares up.clearance low.clearance (up.y - low.y)).1) ∧
      (layout.afterSplit upper lower up low).line? lower =
        some (low.withSoftUp (shares up.clearance low.clearance (up.y - low.y)).2) := by
  have upperBound := line?_bound upperFound
  have lowerBound : lower < (layout.setLine upper (up.withSoftDown
      (shares up.clearance low.clearance (up.y - low.y)).1)).elements.length := by
    simpa [setLine] using line?_bound lowerFound
  constructor
  · rw [afterSplit, line?_setLine_of_ne _ different, line?_setLine _ upperBound, if_pos rfl]
  · rw [afterSplit, line?_setLine _ lowerBound, if_pos rfl]

omit [Scalar K] in
theorem setLine_self {handle : Nat} {line : Line K} (found : layout.line? handle = some line) :
    layout.setLine handle line = layout := by
  have there := line?_eq_some_iff.mp found
  obtain ⟨bound, same⟩ := List.getElem?_eq_some_iff.mp there
  rw [setLine, ← same, List.set_getElem_self]

theorem splitPadding_twice (different : upper ≠ lower) (upperFound : layout.line? upper = some up)
    (lowerFound : layout.line? lower = some low) :
    (layout.splitPadding upper lower (up.y - low.y)).splitPadding upper lower (up.y - low.y) =
      layout.splitPadding upper lower (up.y - low.y) := by
  obtain ⟨upperNow, lowerNow⟩ := line?_afterSplit_ends different upperFound lowerFound
  rw [splitPadding_eq different upperFound lowerFound]
  have still : ((layout.afterSplit upper lower up low).setLine upper (up.withSoftDown
      (shares up.clearance low.clearance (up.y - low.y)).1)).setLine lower (low.withSoftUp
      (shares up.clearance low.clearance (up.y - low.y)).2) =
        layout.afterSplit upper lower up low := by
    rw [setLine_self upperNow, setLine_self lowerNow]
  exact (splitPadding_eq different upperNow lowerNow).trans still

theorem settleWithin_still (asked : layout.nextChange = .ok (some (.split upper lower distance)))
    (still : layout.splitPadding upper lower distance = layout) (scans cuts : Nat) :
    settleWithin scans cuts layout = (layout, .error .unsettled) := by
  induction scans with
  | zero => rfl
  | succ scans ih => simpa only [settleWithin, scan, asked, still] using ih

end Layout

end Pairs

namespace Extended

open Layout

variable {up low : Clearance Extended} {distance : Extended}

structure Measured (up low : Clearance Extended) (distance : Extended) : Prop where
  distance : distance.IsNumber
  upper : up.down.IsNumber
  lower : low.up.IsNumber

theorem le_infinity {x : Extended} (number : x.IsNumber) : x ≤ infinite false := by
  rw [le_iff_of_not_lt]
  · exact ⟨number, isNumber_infinite false⟩
  · cases x <;> simp

theorem room_cases (measured : Measured up low distance) (upper : ¬ up.down < 0)
    (lower : ¬ low.up < 0) (apart : ¬ distance < low.up + up.down) :
    (∃ a b room, a + b ≤ room ∧ up.down = finite a ∧ low.up = finite b ∧
      distance = finite room) ∨ distance = infinite false := by
  obtain ⟨number, upperNumber, lowerNumber⟩ := measured
  cases distance with
  | undefined => exact absurd rfl number
  | infinite negative =>
      cases negative with
      | false => exact Or.inr rfl
      | true =>
          obtain ⟨sign, _, sum⟩ := add_not_neg lower upper
          obtain ⟨total, _, is⟩ | is | is := cases_of_not_neg sign
          · simp [is] at apart
          · simp [is] at apart
          · exact absurd is (sum.mpr ⟨lowerNumber, upperNumber⟩)
  | finite room =>
      left
      obtain ⟨a, _, upIs⟩ | upIs | upIs := cases_of_not_neg upper
      · obtain ⟨b, _, lowIs⟩ | lowIs | lowIs := cases_of_not_neg lower
        · rw [upIs, lowIs, add_finite, lt_finite, not_lt, add_comm] at apart
          exact ⟨a, b, room, apart, upIs, lowIs, rfl⟩
        · simp [upIs, lowIs] at apart
        · exact absurd lowIs lowerNumber
      · obtain ⟨b, _, lowIs⟩ | lowIs | lowIs := cases_of_not_neg lower
        · simp [upIs, lowIs] at apart
        · simp [upIs, lowIs] at apart
        · exact absurd lowIs lowerNumber
      · exact absurd upIs upperNumber

theorem shares_fit (measured : Measured up low distance) (upper : ¬ up.down < 0)
    (lower : ¬ low.up < 0) (apart : ¬ distance < low.up + up.down) :
    (shares up low distance).1 + (shares up low distance).2 - Scalar.tolerance ≤ distance := by
  have positive := Scalar.tolerance_pos
  rcases room_cases measured upper lower apart with
    ⟨a, b, room, _, upIs, lowIs, rfl⟩ | rfl
  · simp only [shares, two_eq, half_finite, upIs, lowIs, le_finite, sub_finite, add_finite, tolerance_eq]
    split
    · simp
      linarith
    · simp
      linarith
  · have enough : up.down ≤ infinite false ∧ low.up ≤ infinite false :=
      ⟨le_infinity measured.upper, le_infinity measured.lower⟩
    simp only [shares, two_eq, half_infinite, if_pos enough, tolerance_eq]
    exact le_infinity (by simp [sub_eq])

theorem shares_undefined (unmeasured : ¬ Measured up low distance) :
    shares up low distance = (undefined, undefined) := by
  have slack : distance - up.down - low.up = undefined := by
    by_contra known
    obtain ⟨rest, lower⟩ := isNumber_of_sub known
    obtain ⟨number, upper⟩ := isNumber_of_sub rest
    exact unmeasured ⟨number, upper, lower⟩
  have unequal : ¬ (up.down ≤ distance / 2.0 ∧ low.up ≤ distance / 2.0) := by
    rintro ⟨first, second⟩
    obtain ⟨upper, number, _⟩ := le_iff.mp first
    obtain ⟨lower, _⟩ := le_iff.mp second
    exact unmeasured ⟨(half_isNumber distance).mp number, upper, lower⟩
  rw [two_eq] at unequal
  simp only [shares, two_eq, if_neg unequal, slack, half_undefined, add_undefined]

end Extended

def Element.clearance? {K : Type} : Element K → Option (Clearance K)
  | .line self => some self.clearance
  | .connector _ => none

namespace Layout

/-- The layouts that can arise from an empty one, also while conflicts are being settled. -/
inductive Arises : Layout Extended → Prop
  | empty (thickness : Option Extended) : Arises (Layout.empty thickness)
  | add {layout : Layout Extended} (spec : ElementSpec Extended) :
      Arises layout → Arises (layout.add spec).1
  | center {layout : Layout Extended} : Arises layout → Arises layout.center
  | cut {layout next : Layout Extended} : Arises layout → layout.scan = .cut next → Arises next
  | split {layout next : Layout Extended} : Arises layout → layout.scan = .split next → Arises next

/-- No hard clearance is negative, though one may be no number. -/
def Firm (layout : Layout Extended) : Prop :=
  ∀ element ∈ layout.elements, ∀ clearance, element.clearance? = some clearance →
    ¬ clearance.up < 0 ∧ ¬ clearance.down < 0

namespace Firm

variable {layout : Layout Extended}

theorem line (firm : layout.Firm) {handle : Nat} {line : Line Extended}
    (found : layout.line? handle = some line) :
    ¬ line.clearance.up < 0 ∧ ¬ line.clearance.down < 0 :=
  firm _ (List.mem_of_getElem? (line?_eq_some_iff.mp found)) _ rfl

theorem append (firm : layout.Firm) {line : Line Extended}
    (new : ¬ line.clearance.up < 0 ∧ ¬ line.clearance.down < 0) :
    Firm { layout with elements := layout.elements ++ [.line line] } := by
  intro element member clearance is
  rcases List.mem_append.mp member with old | added
  · exact firm element old clearance is
  · rw [List.mem_singleton.mp added] at is
    exact Option.some.inj is ▸ new

theorem setLine (firm : layout.Firm) {handle : Nat} {line : Line Extended}
    (new : ¬ line.clearance.up < 0 ∧ ¬ line.clearance.down < 0) :
    (layout.setLine handle line).Firm := by
  intro element member clearance is
  rcases List.mem_or_eq_of_mem_set member with old | rfl
  · exact firm element old clearance is
  · exact Option.some.inj is ▸ new

theorem add (firm : layout.Firm) (spec : ElementSpec Extended) : (layout.add spec).1.Firm := by
  rcases layout.add_atomic spec with
    ⟨failure, _, refused⟩ | ⟨element, next, made, _, addition, added⟩
  · rw [refused]
    exact firm
  · rw [added]
    intro other member clearance is
    have blind : ∀ element : Element Extended, element.unmarked.clearance? = element.clearance? := by
      rintro (line | connector)
      · rfl
      · rfl
    have listed : some clearance ∈ next.elements.map Element.clearance? :=
      List.mem_map.mpr ⟨other, member, is⟩
    rw [addition.map_eq blind, List.mem_append, List.mem_singleton] at listed
    rcases listed with old | new
    · obtain ⟨before, known, same⟩ := List.mem_map.mp old
      exact firm before known clearance same
    · cases spec with
      | line spec =>
          obtain ⟨line, prepared, rfl⟩ := map_eq_ok.mp made
          obtain ⟨_, _, _, admitted, _, _, _, _, rfl⟩ := prepareLine_ok prepared
          exact Option.some.inj new ▸ Line.hard_not_neg admitted
      | connector spec =>
          obtain ⟨connector, _, rfl⟩ := map_eq_ok.mp made
          contradiction

theorem center (firm : layout.Firm) : layout.center.Firm := by
  intro element member clearance is
  obtain ⟨old, listed, rfl⟩ := List.mem_map.mp member
  cases old with
  | line line => exact firm _ listed _ is
  | connector connector => contradiction

theorem scan_cut (firm : layout.Firm) {next : Layout Extended} (scanned : layout.scan = .cut next) :
    next.Firm := by
  obtain ⟨handle, line, x, found, rfl⟩ := Layout.scan_cut scanned
  have known := firm.line found
  have left : (layout.setLine handle (line.leftPart x)).Firm := firm.setLine known
  exact left.append known

theorem scan_split (firm : layout.Firm) {next : Layout Extended}
    (scanned : layout.scan = .split next) : next.Firm := by
  obtain ⟨upper, lower, distance, asked, rfl⟩ := Layout.scan_split scanned
  obtain ⟨up, low, upperFound, lowerFound, splitting⟩ := nextChange_splitting asked
  have upperKnown := firm.line upperFound
  have lowerKnown := firm.line lowerFound
  rw [splitting.height, splitPadding_eq splitting.different upperFound lowerFound, afterSplit]
  refine Firm.setLine (Firm.setLine firm ?_) ?_
  · exact upperKnown
  · exact lowerKnown

end Firm

theorem Arises.firm {layout : Layout Extended} (arises : layout.Arises) : layout.Firm := by
  induction arises with
  | empty thickness => exact fun element impossible => absurd impossible List.not_mem_nil
  | add spec _ ih => exact ih.add spec
  | center _ ih => exact ih.center
  | cut _ scanned ih => exact ih.scan_cut scanned
  | split _ scanned ih => exact ih.scan_split scanned

/-- A state that a split has led to, in which the two lines ask for the same split again. It changes
nothing, so a scan that finds these lines first finds them for ever. -/
structure Stuck (next : Layout Extended) (upper lower : Nat) (distance : Extended) : Prop where
  asks : ∃ up low, next.line? upper = some up ∧ next.line? lower = some low ∧
    askedOf (upper, up) (lower, low) = .ok (some (.split upper lower distance))
  still : next.splitPadding upper lower distance = next
  endless : next.nextChange = .ok (some (.split upper lower distance)) →
    ∀ scans cuts, settleWithin scans cuts next = (next, .error .unsettled)

/-- What a split leads to: it is never asked for again, or it is asked for ever. -/
theorem splitPadding_outcome {layout : Layout Extended} (firm : layout.Firm) {upper lower : Nat}
    {distance : Extended} (asked : layout.nextChange = .ok (some (.split upper lower distance))) :
    ∃ up low, layout.line? upper = some up ∧ layout.line? lower = some low ∧
      distance = up.y - low.y ∧
      (Extended.Measured up.clearance low.clearance distance → ∀ room,
        (layout.splitPadding upper lower distance).nextChange ≠
          .ok (some (.split upper lower room))) ∧
      (¬ Extended.Measured up.clearance low.clearance distance →
        (layout.splitPadding upper lower distance).Stuck upper lower distance) := by
  obtain ⟨up, low, upperFound, lowerFound, splitting⟩ := nextChange_splitting asked
  obtain rfl := splitting.height
  obtain ⟨upperNow, lowerNow⟩ := line?_afterSplit_ends splitting.different upperFound lowerFound
  rw [← splitPadding_eq splitting.different upperFound lowerFound] at upperNow lowerNow
  refine ⟨up, low, upperFound, lowerFound, rfl, ?_, ?_⟩
  · intro measured room repeated
    obtain ⟨_, _, upperThen, lowerThen, resplit⟩ := nextChange_splitting repeated
    obtain rfl := Option.some.inj (upperNow.symm.trans upperThen)
    obtain rfl := Option.some.inj (lowerNow.symm.trans lowerThen)
    have fit := Extended.shares_fit measured (firm.line upperFound).2 (firm.line lowerFound).1
      splitting.apart
    have quiet := (splitting.again _ _).trans (if_pos fit)
    have loud := resplit.asked
    rw [quiet] at loud
    simp at loud
  · intro unmeasured
    have shared := Extended.shares_undefined unmeasured
    have still := splitPadding_twice splitting.different upperFound lowerFound
    rw [shared] at upperNow lowerNow
    have crowded : ¬ Extended.undefined + Extended.undefined - Scalar.tolerance ≤ up.y - low.y :=
      fun room => (Extended.le_iff.mp room).1 rfl
    exact ⟨⟨_, _, upperNow, lowerNow, (splitting.again _ _).trans (if_neg crowded)⟩, still,
      fun found => settleWithin_still found still⟩

/-- Of a line that is admitted, each comparison holds just when its numbers are numbers. A split is
done with when the values it is computed from are numbers; otherwise it is asked for again, and the
layout does not change any more. -/
theorem admitted_screened {layout : Layout Extended} (arises : layout.Arises) :
    (∀ spec next handle, layout.addLine spec = (next, .ok handle) →
      ∃ line, next.line? handle = some line ∧ line.property = spec.property ∧ line.Screened) ∧
    ∀ upper lower distance, layout.nextChange = .ok (some (.split upper lower distance)) →
      ∃ up low, layout.line? upper = some up ∧ layout.line? lower = some low ∧
        distance = up.y - low.y ∧
        (Extended.Measured up.clearance low.clearance distance → ∀ room,
          (layout.splitPadding upper lower distance).nextChange ≠
            .ok (some (.split upper lower room))) ∧
        (¬ Extended.Measured up.clearance low.clearance distance →
          (layout.splitPadding upper lower distance).Stuck upper lower distance) := by
  constructor
  · intro spec next handle added
    cases prepared : layout.prepareLine spec with
    | error failure => simp [addLine, prepared] at added
    | ok line =>
        obtain ⟨result, addition, same⟩ := addLine_addition prepared
        obtain ⟨rfl, handled⟩ := Prod.mk.inj (same.symm.trans added)
        obtain rfl := Except.ok.inj handled
        obtain ⟨start, finish, _, admitted, _, _, ordered, level, rfl⟩ := prepareLine_ok prepared
        exact ⟨_, line?_eq_some_iff.mpr addition.last, rfl,
          Line.screened_of_admitted admitted rfl ⟨_, rfl⟩ ordered level⟩
  · intro upper lower distance asked
    exact splitPadding_outcome arises.firm asked

def straightLine (width : Extended) (y : ℚ) : LineSpec Extended :=
  let tip (x : ℚ) : PointSpec Extended :=
    ⟨some (.finite x), some (.finite y), none, none, .start, none, none, none⟩
  let air : Medium Extended := .dielectric 1
  ⟨none, none, tip 0, tip 30, ⟨width, 1, ⟨.finite 10, .finite 2, 1⟩, ⟨air, air, air⟩⟩⟩

def doubleLine (width : Extended) : Layout Extended :=
  (((Layout.empty none).addLine (straightLine width 0)).1.addLine (straightLine width 7)).1

theorem arises_doubleLine (width : Extended) : (doubleLine width).Arises :=
  .add (.line _) (.add (.line _) (.empty none))

def splitAsked (layout : Layout Extended) : Option (Nat × Nat × Extended) :=
  match layout.nextChange with
  | .ok (some (.split upper lower distance)) => some (upper, lower, distance)
  | _ => none

theorem nextChange_of_splitAsked {layout : Layout Extended} {upper lower : Nat}
    {distance : Extended} (asked : layout.splitAsked = some (upper, lower, distance)) :
    layout.nextChange = .ok (some (.split upper lower distance)) := by
  unfold splitAsked at asked
  split at asked
  · rename_i found
    rw [found]
    obtain ⟨rfl, rfl, rfl⟩ := by simpa using asked
    rfl
  · contradiction

theorem doubleLine_screened :
    ((doubleLine (.finite 4)).Arises ∧
      (doubleLine (.finite 4)).nextChange = .ok (some (.split 1 0 (.finite 7))) ∧
      ∀ room, ((doubleLine (.finite 4)).splitPadding 1 0 (.finite 7)).nextChange ≠
        .ok (some (.split 1 0 room))) ∧
    (doubleLine .undefined).Arises ∧
      (∃ line, (doubleLine .undefined).line? 1 = some line ∧
        line.property = (straightLine .undefined 7).property ∧ line.Screened) ∧
      (doubleLine .undefined).nextChange = .ok (some (.split 1 0 (.finite 7))) ∧
      ((doubleLine .undefined).splitPadding 1 0 (.finite 7)).Stuck 1 0 (.finite 7) := by
  have sharp : (doubleLine (.finite 4)).nextChange = .ok (some (.split 1 0 (.finite 7))) :=
    nextChange_of_splitAsked (by decide +kernel)
  have blurred : (doubleLine .undefined).nextChange = .ok (some (.split 1 0 (.finite 7))) :=
    nextChange_of_splitAsked (by decide +kernel)
  refine ⟨⟨arises_doubleLine _, sharp, ?_⟩, arises_doubleLine _, ?_, blurred, ?_⟩
  · obtain ⟨up, low, upperFound, lowerFound, _, settled, _⟩ :=
      (admitted_screened (arises_doubleLine (.finite 4))).2 1 0 (.finite 7) sharp
    have upper : ((doubleLine (.finite 4)).line? 1).map (fun line => line.clearance.down) =
        some (.finite 3) := by
      decide +kernel
    have lower : ((doubleLine (.finite 4)).line? 0).map (fun line => line.clearance.up) =
        some (.finite 3) := by
      decide +kernel
    rw [upperFound, Option.map_some, Option.some.injEq] at upper
    rw [lowerFound, Option.map_some, Option.some.injEq] at lower
    refine settled ⟨?_, ?_, ?_⟩
    · exact Extended.isNumber_finite 7
    · rw [upper]
      exact Extended.isNumber_finite 3
    · rw [lower]
      exact Extended.isNumber_finite 3
  · have before : (((Layout.empty none).addLine (straightLine .undefined 0)).1).Arises :=
      .add (.line _) (.empty none)
    have accepted : (((Layout.empty none).addLine (straightLine .undefined 0)).1.addLine
        (straightLine .undefined 7)).2 = .ok 1 :=
      ok_of_toOption (by decide +kernel)
    exact (admitted_screened before).1 _ _ _ (Prod.ext rfl accepted)
  · obtain ⟨up, low, upperFound, _, _, _, stuck⟩ :=
      (admitted_screened (arises_doubleLine .undefined)).2 1 0 (.finite 7) blurred
    have upper : ((doubleLine .undefined).line? 1).map (fun line => line.clearance.down) =
        some .undefined := by
      decide +kernel
    rw [upperFound, Option.map_some, Option.some.injEq] at upper
    exact stuck fun measured => measured.upper upper

/-- A width that is not a number is admitted, and the padding between two such lines is split for
ever. -/
theorem doubleLine_endless :
    (doubleLine .undefined).Arises ∧
      ((doubleLine .undefined).line? 1).map (fun line => decide (0 ≤ line.property.width)) =
        some false ∧
      ∀ times, ((fun layout => layout.splitPadding 1 0 (.finite 7))^[times]
        (doubleLine .undefined)).nextChange = .ok (some (.split 1 0 (.finite 7))) := by
  have first : (doubleLine .undefined).nextChange = .ok (some (.split 1 0 (.finite 7))) :=
    nextChange_of_splitAsked (by decide +kernel)
  have again : ((doubleLine .undefined).splitPadding 1 0 (.finite 7)).nextChange =
      .ok (some (.split 1 0 (.finite 7))) :=
    nextChange_of_splitAsked (by decide +kernel)
  obtain ⟨up, low, upperFound, lowerFound, splitting⟩ := nextChange_splitting first
  have still := splitPadding_twice splitting.different upperFound lowerFound
  rw [← splitting.height] at still
  refine ⟨arises_doubleLine _, by decide +kernel, ?_⟩
  intro times
  cases times with
  | zero => exact first
  | succ times =>
      rw [Function.iterate_succ_apply, Function.iterate_fixed still]
      exact again

end Layout

end Waveguide
