import Mathlib
import Waveguide.Proofs.Settling

/-!
The pieces of a line: what is left of it and whatever was cut from it. They stand in a row from the
start of the line to its end.
-/

namespace Waveguide

/-- Pieces in a row from one point to another. Where two of them meet, nothing is attached. -/
inductive Joined : Endpoint ℚ → List (Nat × Line ℚ) → Endpoint ℚ → Prop
  | single {piece start finish} : piece.2.start = start → piece.2.finish = finish →
      Joined start [piece] finish
  | cons {piece start point pieces finish} : piece.2.start = start →
      piece.2.finish = .plain point → start.x < point.x → point.x < finish.x →
      Joined (.plain point) pieces finish → Joined start (piece :: pieces) finish

def Abut (a b : Nat × Line ℚ) : Prop :=
  a.2.maxX = b.2.minX ∧ ∃ point, a.2.finish = .plain point ∧ b.2.start = .plain point

namespace Joined

variable {start finish : Endpoint ℚ} {pieces : List (Nat × Line ℚ)}

theorem cut {before after : List (Nat × Line ℚ)} {handle : Nat} {line : Line ℚ} {x : ℚ}
    (joined : Joined start (before ++ (handle, line) :: after) finish)
    (inside : line.start.x < x ∧ x < line.finish.x) (fragment : Nat) :
    Joined start
      (before ++ (handle, line.leftPart x) :: (fragment, line.rightPart x handle) :: after)
      finish := by
  induction before generalizing start with
  | nil =>
      cases joined with
      | single first last =>
          subst first last
          exact .cons rfl rfl inside.1 inside.2 (.single rfl rfl)
      | @cons _ _ point _ _ first last long beyond rest =>
          subst first
          have meets : line.finish = .plain point := last
          have inner : x < point.x := by
            have right := inside.2
            rw [meets] at right
            exact right
          exact .cons rfl rfl inside.1 (inner.trans beyond) (.cons rfl last inner beyond rest)
  | cons piece before ih =>
      rw [List.cons_append] at joined ⊢
      generalize tail : before ++ (handle, line) :: after = others at joined
      cases joined with
      | single first last => simp at tail
      | cons first last long beyond rest =>
          subst tail
          exact .cons first last long beyond (ih rest)

theorem map (joined : Joined start pieces finish) {change : Nat × Line ℚ → Nat × Line ℚ}
    (starts : ∀ piece, (change piece).2.start = piece.2.start)
    (finishes : ∀ piece, (change piece).2.finish = piece.2.finish) :
    Joined start (pieces.map change) finish := by
  induction joined with
  | single first last => exact .single ((starts _).trans first) ((finishes _).trans last)
  | cons first last long beyond _ ih =>
      exact .cons ((starts _).trans first) ((finishes _).trans last) long beyond ih

theorem head (joined : Joined start pieces finish) :
    ∃ piece rest, pieces = piece :: rest ∧ piece.2.start = start ∧
      piece.2.minX = min start.x finish.x := by
  cases joined with
  | single first last => exact ⟨_, _, rfl, first, by rw [Line.minX_eq, first, last]⟩
  | @cons piece _ point _ _ first last long beyond rest =>
      refine ⟨_, _, rfl, first, ?_⟩
      rw [Line.minX_eq, first, last, Endpoint.plain_x, min_eq_left long.le,
        min_eq_left (long.trans beyond).le]

theorem last (joined : Joined start pieces finish) :
    ∃ rest piece, pieces = rest ++ [piece] ∧ piece.2.finish = finish ∧
      piece.2.maxX = max start.x finish.x := by
  induction joined with
  | single first last => exact ⟨[], _, rfl, last, by rw [Line.maxX_eq, first, last]⟩
  | @cons piece start point pieces finish first last long beyond _ ih =>
      obtain ⟨rest, final, rfl, ending, right⟩ := ih
      refine ⟨piece :: rest, final, rfl, ending, ?_⟩
      rw [right, max_eq_right (long.trans beyond).le]
      exact max_eq_right beyond.le

theorem range (joined : Joined start pieces finish) (x : ℚ) :
    (min start.x finish.x ≤ x ∧ x ≤ max start.x finish.x) ↔
      ∃ piece ∈ pieces, piece.2.minX ≤ x ∧ x ≤ piece.2.maxX := by
  induction joined with
  | single first last =>
      subst first last
      simp [Line.minX_eq, Line.maxX_eq]
  | @cons piece start point pieces finish first last long beyond _ ih =>
      have left : piece.2.minX = start.x := by
        rw [Line.minX_eq, first, last, Endpoint.plain_x, min_eq_left long.le]
      have right : piece.2.maxX = point.x := by
        rw [Line.maxX_eq, first, last, Endpoint.plain_x, max_eq_right long.le]
      rw [Endpoint.plain_x, min_eq_left beyond.le, max_eq_right beyond.le] at ih
      rw [List.exists_mem_cons_iff, ← ih, left, right, min_eq_left (long.trans beyond).le,
        max_eq_right (long.trans beyond).le]
      constructor
      · rintro ⟨above, below⟩
        rcases le_total x point.x with here | later
        · exact Or.inl ⟨above, here⟩
        · exact Or.inr ⟨later, below⟩
      · rintro (⟨above, below⟩ | ⟨above, below⟩)
        · exact ⟨above, below.trans beyond.le⟩
        · exact ⟨long.le.trans above, below⟩

theorem abut (joined : Joined start pieces finish) : pieces.IsChain Abut := by
  induction joined with
  | single first last => exact .singleton _
  | @cons piece start point pieces finish first last long beyond rest ih =>
      obtain ⟨next, others, rfl, meets, left⟩ := rest.head
      refine .cons_cons ⟨?_, point, last, meets⟩ ih
      rw [left, Line.maxX_eq, first, last, Endpoint.plain_x, max_eq_right long.le,
        min_eq_left beyond.le]

theorem sorted (joined : Joined start pieces finish) :
    pieces.Pairwise fun a b => a.2.maxX ≤ b.2.minX := by
  induction joined with
  | single first last => exact List.pairwise_singleton _ _
  | @cons piece start point pieces finish first last long beyond rest ih =>
      refine List.pairwise_cons.mpr ⟨?_, ih⟩
      intro other member
      have within := (rest.range other.2.minX).mpr
        ⟨other, member, le_rfl, other.2.minX_le_maxX⟩
      rw [Endpoint.plain_x, min_eq_left beyond.le] at within
      rw [Line.maxX_eq, first, last, Endpoint.plain_x, max_eq_right long.le]
      exact within.1

end Joined

structure Tiling (original : Line ℚ) (pieces : List (Nat × Line ℚ)) : Prop where
  sorted : pieces.Pairwise fun a b => a.2.maxX ≤ b.2.minX
  abut : pieces.IsChain Abut
  range : ∀ x, (original.minX ≤ x ∧ x ≤ original.maxX) ↔
    ∃ piece ∈ pieces, piece.2.minX ≤ x ∧ x ≤ piece.2.maxX
  start : ∃ piece rest, pieces = piece :: rest ∧ piece.2.start = original.start ∧
    piece.2.minX = original.minX
  finish : ∃ rest piece, pieces = rest ++ [piece] ∧ piece.2.finish = original.finish ∧
    piece.2.maxX = original.maxX

theorem Joined.tiling {original : Line ℚ} {pieces : List (Nat × Line ℚ)}
    (joined : Joined original.start pieces original.finish) : Tiling original pieces where
  sorted := joined.sorted
  abut := joined.abut
  range x := by
    rw [Line.minX_eq, Line.maxX_eq]
    exact joined.range x
  start := by
    rw [Line.minX_eq]
    exact joined.head
  finish := by
    rw [Line.maxX_eq]
    exact joined.last

namespace Layout

def parent? (layout : Layout ℚ) (handle : Nat) : Option Nat :=
  (layout.line? handle).bind Line.parent

inductive Descends (layout : Layout ℚ) (root : Nat) : Nat → Prop
  | root : Descends layout root root
  | fragment {handle parent} : layout.parent? handle = some parent →
      Descends layout root parent → Descends layout root handle

def Parented (layout : Layout ℚ) : Prop :=
  ∀ handle parent, layout.parent? handle = some parent → parent < handle

theorem parent?_bound {layout : Layout ℚ} {handle parent : Nat}
    (found : layout.parent? handle = some parent) : handle < layout.elements.length := by
  obtain ⟨line, place, _⟩ := Option.bind_eq_some_iff.mp found
  exact line?_bound place

theorem parent?_afterCut {layout : Layout ℚ} {handle : Nat} {line : Line ℚ}
    (found : layout.line? handle = some line) (x : ℚ) (other : Nat) :
    (layout.afterCut handle (line.leftPart x) (line.rightPart x handle)).parent? other =
      if other = layout.elements.length then some handle else layout.parent? other := by
  unfold parent?
  rw [line?_afterCut _ _ (line?_bound found)]
  split
  · rfl
  · split
    · rename_i same
      rw [same, found]
      rfl
    · rfl

theorem parent?_afterSplit {layout : Layout ℚ} {upper lower : Nat} {up low : Line ℚ}
    (step : layout.SplitStep upper lower up low) (other : Nat) :
    (layout.afterSplit upper lower up low).parent? other = layout.parent? other := by
  unfold parent?
  rw [line?_afterSplit_eq_map step]
  cases layout.line? other with
  | none => rfl
  | some line => exact splitLine_same Line.parent (fun _ _ => rfl) (fun _ _ => rfl)

theorem descends_congr {layout other : Layout ℚ} {root handle : Nat}
    (same : ∀ handle, other.parent? handle = layout.parent? handle) :
    other.Descends root handle ↔ layout.Descends root handle := by
  constructor
  · intro descends
    induction descends with
    | root => exact .root
    | fragment parent _ ih => exact .fragment ((same _).symm.trans parent) ih
  · intro descends
    induction descends with
    | root => exact .root
    | fragment parent _ ih => exact .fragment ((same _).trans parent) ih

theorem descends_afterCut {layout : Layout ℚ} {root handle : Nat} {line : Line ℚ}
    (parented : layout.Parented) (old : root < layout.elements.length)
    (found : layout.line? handle = some line) (x : ℚ) (other : Nat) :
    (layout.afterCut handle (line.leftPart x) (line.rightPart x handle)).Descends root other ↔
      layout.Descends root (if other = layout.elements.length then handle else other) := by
  have bound := line?_bound found
  constructor
  · intro descends
    -- No line has the new one as its parent, so only the last link of a chain can be new.
    induction descends with
    | root =>
        rw [if_neg old.ne]
        exact .root
    | @fragment other parent cutFrom _ ih =>
        rw [parent?_afterCut found] at cutFrom
        split at cutFrom
        · rename_i last
          obtain rfl := Option.some.inj cutFrom
          rw [if_neg bound.ne] at ih
          rwa [if_pos last]
        · rename_i earlier
          have within := (parented other parent cutFrom).trans (parent?_bound cutFrom)
          rw [if_neg within.ne] at ih
          rw [if_neg earlier]
          exact .fragment cutFrom ih
  · have kept : ∀ place, layout.Descends root place →
        (layout.afterCut handle (line.leftPart x) (line.rightPart x handle)).Descends root
          place := by
      intro place descends
      induction descends with
      | root => exact .root
      | fragment cutFrom _ ih =>
          refine .fragment ?_ ih
          rw [parent?_afterCut found, if_neg (parent?_bound cutFrom).ne, cutFrom]
    intro descends
    split at descends
    · rename_i last
      refine .fragment ?_ (kept handle descends)
      rw [parent?_afterCut found, if_pos last]
    · exact kept other descends

theorem Parented.afterCut {layout : Layout ℚ} {handle : Nat} {line : Line ℚ}
    (parented : layout.Parented) (found : layout.line? handle = some line) (x : ℚ) :
    (layout.afterCut handle (line.leftPart x) (line.rightPart x handle)).Parented := by
  intro other parent cutFrom
  rw [parent?_afterCut found] at cutFrom
  split at cutFrom
  · rename_i last
    rw [last, ← Option.some.inj cutFrom]
    exact line?_bound found
  · exact parented other parent cutFrom

theorem Parented.afterSplit {layout : Layout ℚ} {upper lower : Nat} {up low : Line ℚ}
    (parented : layout.Parented) (step : layout.SplitStep upper lower up low) :
    (layout.afterSplit upper lower up low).Parented := by
  intro other parent cutFrom
  rw [parent?_afterSplit step] at cutFrom
  exact parented other parent cutFrom

theorem Declared.parent? {layout : Layout ℚ} (declared : layout.Declared) (handle : Nat) :
    layout.parent? handle = none := by
  unfold Layout.parent?
  cases found : layout.line? handle with
  | none => rfl
  | some line => exact (declared.line found).parent

theorem SettlingWith.parented {admits : Line ℚ → ℚ → Prop} {layout state : Layout ℚ} {cuts : Nat}
    (run : SettlingWith admits layout cuts state) (declared : layout.Declared) :
    state.Parented := by
  refine SettlingWith.along (motive := fun _ state => state.Parented) ?_ ?_ ?_ run
  · intro handle parent impossible
    simp [declared.parent?] at impossible
  · intro cuts state handle line x _ parented step _
    exact parented.afterCut step.found x
  · intro cuts state upper lower up low _ parented step
    exact parented.afterSplit step

/-- A line that is what is left of the line at a place, or was cut from it or from a part of it. -/
def IsPiece (layout : Layout ℚ) (root : Nat) (piece : Line ℚ) : Prop :=
  ∃ handle, layout.line? handle = some piece ∧ layout.Descends root handle

theorem IsPiece.initial {layout : Layout ℚ} (declared : layout.Declared) {root : Nat}
    {original piece : Line ℚ} (found : layout.line? root = some original)
    (isPiece : layout.IsPiece root piece) : piece = original := by
  obtain ⟨handle, place, descends⟩ := isPiece
  cases descends with
  | root => exact Option.some.inj (place.symm.trans found)
  | fragment parent _ => simp [declared.parent?] at parent

theorem IsPiece.of_afterCut {layout : Layout ℚ} {root handle : Nat} {line piece : Line ℚ} {x : ℚ}
    (parented : layout.Parented) (old : root < layout.elements.length)
    (found : layout.line? handle = some line)
    (isPiece : (layout.afterCut handle (line.leftPart x) (line.rightPart x handle)).IsPiece root
      piece) :
    layout.IsPiece root piece ∨
      layout.IsPiece root line ∧ (piece = line.leftPart x ∨ piece = line.rightPart x handle) := by
  obtain ⟨place, placed, descends⟩ := isPiece
  rw [descends_afterCut parented old found] at descends
  rw [line?_afterCut _ _ (line?_bound found)] at placed
  split at placed
  · rename_i isLast
    rw [if_pos isLast] at descends
    exact Or.inr ⟨⟨handle, found, descends⟩, Or.inr (Option.some.inj placed).symm⟩
  · rename_i notLast
    rw [if_neg notLast] at descends
    split at placed
    · rename_i isHandle
      rw [isHandle] at descends
      exact Or.inr ⟨⟨handle, found, descends⟩, Or.inl (Option.some.inj placed).symm⟩
    · exact Or.inl ⟨place, placed, descends⟩

theorem IsPiece.of_afterSplit {layout : Layout ℚ} {root upper lower : Nat}
    {up low piece : Line ℚ} (step : layout.SplitStep upper lower up low)
    (isPiece : (layout.afterSplit upper lower up low).IsPiece root piece) :
    ∃ handle line, layout.IsPiece root line ∧ splitLine upper lower up low handle line = piece := by
  obtain ⟨handle, placed, descends⟩ := isPiece
  rw [descends_congr (parent?_afterSplit step)] at descends
  rw [line?_afterSplit_eq_map step] at placed
  obtain ⟨line, found, changed⟩ := Option.map_eq_some_iff.mp placed
  exact ⟨handle, line, ⟨handle, found, descends⟩, changed⟩

theorem SettlingWith.pieces_keep {admits : Line ℚ → ℚ → Prop} {layout state : Layout ℚ}
    {cuts : Nat} (run : SettlingWith admits layout cuts state) (declared : layout.Declared)
    {root : Nat} {original : Line ℚ} (found : layout.line? root = some original)
    {property : Line ℚ → Prop} (initially : property original)
    (cut : ∀ line x parent, line.Sound → line.start.x < x ∧ x < line.finish.x → admits line x →
      property line → property (line.leftPart x) ∧ property (line.rightPart x parent))
    (softUp : ∀ line soft, property line → property (Line.withSoftUp line soft))
    (softDown : ∀ line soft, property line → property (Line.withSoftDown line soft)) :
    ∀ piece, state.IsPiece root piece → property piece := by
  have sound := declared.allSound
  refine SettlingWith.along
    (motive := fun _ state => ∀ piece, state.IsPiece root piece → property piece) ?_ ?_ ?_ run
  · intro piece isPiece
    rw [isPiece.initial declared found]
    exact initially
  · intro cuts state handle line x run before step admitted piece isPiece
    have lineSound := run.sound sound handle line step.found
    have bound : root < state.elements.length := by
      rw [run.untouched.count]
      exact Nat.lt_add_right _ (line?_bound found)
    rcases isPiece.of_afterCut (run.parented declared) bound step.found with
      old | ⟨known, left | right⟩
    · exact before piece old
    · rw [left]
      exact (cut line x handle lineSound (step.inside lineSound) admitted (before line known)).1
    · rw [right]
      exact (cut line x handle lineSound (step.inside lineSound) admitted (before line known)).2
  · intro cuts state upper lower up low _ before step piece isPiece
    obtain ⟨handle, line, known, rfl⟩ := isPiece.of_afterSplit step
    exact splitLine_keeps property softUp softDown (before line known)

end Layout

end Waveguide
