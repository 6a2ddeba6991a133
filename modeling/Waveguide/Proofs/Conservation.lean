import Mathlib
import Waveguide.Proofs.Pieces
import Waveguide.Proofs.Termination

/-!
Settling loses nothing and invents nothing: whatever was declared keeps its place, and each line is
still there, in pieces.
-/

namespace Waveguide

structure Line.PieceOf (original piece : Line ℚ) : Prop where
  property : piece.property = original.property
  up : piece.clearance.up = original.clearance.up
  down : piece.clearance.down = original.clearance.down
  elevation : piece.elevation = original.elevation
  y : piece.y = original.start.y ∨ piece.y = original.finish.y
  finish : piece.finish.y = original.finish.y

namespace Line.PieceOf

variable {original piece : Line ℚ}

theorem refl (original : Line ℚ) : original.PieceOf original :=
  ⟨rfl, rfl, rfl, rfl, Or.inl rfl, rfl⟩

theorem leftPart (part : original.PieceOf piece) (x : ℚ) : original.PieceOf (piece.leftPart x) :=
  { part with }

theorem rightPart (part : original.PieceOf piece) (x : ℚ) (parent : Nat) :
    original.PieceOf (piece.rightPart x parent) :=
  { part with y := Or.inr part.finish }

end Line.PieceOf

structure Line.Heads (piece original : Line ℚ) : Prop where
  id : piece.id = original.id
  comment : piece.comment = original.comment
  skip : piece.skip = original.skip

section Replacement

variable {α : Type} {before after : List (Nat × α)} {old : Nat × α}

theorem mem_replaced (distinct : ((before ++ old :: after).map Prod.fst).Nodup)
    (left fragment piece : Nat × α) :
    piece ∈ before ++ left :: fragment :: after ↔
      piece = left ∨ piece = fragment ∨ piece ∈ before ++ old :: after ∧ piece.1 ≠ old.1 := by
  have apart : piece ∈ before ∨ piece ∈ after → piece.1 ≠ old.1 := by
    intro other same
    rw [List.map_append, List.map_cons, List.nodup_middle, ← List.map_append, ← same] at distinct
    exact (List.nodup_cons.mp distinct).1 (List.mem_map.mpr ⟨piece, List.mem_append.mpr other, rfl⟩)
  simp only [List.mem_append, List.mem_cons]
  constructor
  · rintro (early | rfl | rfl | late)
    · exact Or.inr (Or.inr ⟨Or.inl early, apart (Or.inl early)⟩)
    · exact Or.inl rfl
    · exact Or.inr (Or.inl rfl)
    · exact Or.inr (Or.inr ⟨Or.inr (Or.inr late), apart (Or.inr late)⟩)
  · rintro (rfl | rfl | ⟨early | rfl | late, different⟩)
    · exact Or.inr (Or.inl rfl)
    · exact Or.inr (Or.inr (Or.inl rfl))
    · exact Or.inl early
    · exact absurd rfl different
    · exact Or.inr (Or.inr (Or.inr late))

theorem nodup_replaced (distinct : ((before ++ old :: after).map Prod.fst).Nodup)
    {left fragment : Nat × α} (same : left.1 = old.1)
    (fresh : fragment.1 ∉ (before ++ old :: after).map Prod.fst) :
    ((before ++ left :: fragment :: after).map Prod.fst).Nodup := by
  have moved : ((before ++ left :: fragment :: after).map Prod.fst).Perm
      (fragment.1 :: (before ++ old :: after).map Prod.fst) := by
    simp only [List.map_append, List.map_cons, same]
    exact ((List.Perm.swap _ _ _).append_left _).trans List.perm_middle
  exact moved.nodup_iff.mpr (List.nodup_cons.mpr ⟨fresh, distinct⟩)

end Replacement

namespace Layout

/-- The pieces of a line that was declared at a place. -/
structure Dissection (layout : Layout ℚ) (root : Nat) (original : Line ℚ)
    (pieces : List (Nat × Line ℚ)) : Prop where
  members : ∀ piece, piece ∈ pieces ↔
    layout.line? piece.1 = some piece.2 ∧ layout.Descends root piece.1
  distinct : (pieces.map Prod.fst).Nodup
  joined : Joined original.start pieces original.finish
  first : ∃ line rest, pieces = (root, line) :: rest ∧ line.Heads original

namespace Dissection

variable {layout : Layout ℚ} {root : Nat} {original : Line ℚ} {pieces : List (Nat × Line ℚ)}

theorem initial (found : layout.line? root = some original)
    (uncut : ∀ handle, layout.parent? handle = none) :
    layout.Dissection root original [(root, original)] where
  members := by
    rintro ⟨handle, line⟩
    rw [List.mem_singleton]
    constructor
    · rintro ⟨rfl, rfl⟩
      exact ⟨found, .root⟩
    · rintro ⟨place, descends⟩
      cases descends with
      | root =>
          obtain rfl : line = original := Option.some.inj (place.symm.trans found)
          rfl
      | fragment parent _ => simp [uncut] at parent
  distinct := List.nodup_singleton _
  joined := .single rfl rfl
  first := ⟨original, [], rfl, rfl, rfl, rfl⟩

theorem root_bound (dissection : layout.Dissection root original pieces) :
    root < layout.elements.length := by
  obtain ⟨line, rest, rfl, _⟩ := dissection.first
  exact line?_bound ((dissection.members _).mp List.mem_cons_self).1

theorem bound (dissection : layout.Dissection root original pieces) {piece : Nat × Line ℚ}
    (member : piece ∈ pieces) : piece.1 < layout.elements.length :=
  line?_bound ((dissection.members piece).mp member).1

section Cut

variable {handle : Nat} {line : Line ℚ} {x : ℚ}

theorem afterOtherCut (dissection : layout.Dissection root original pieces)
    (parented : layout.Parented) (found : layout.line? handle = some line)
    (foreign : ¬ layout.Descends root handle) :
    (layout.afterCut handle (line.leftPart x) (line.rightPart x handle)).Dissection root original
      pieces where
  members piece := by
    rw [line?_afterCut _ _ (line?_bound found),
      descends_afterCut parented dissection.root_bound found]
    constructor
    · intro member
      have known := (dissection.members piece).mp member
      have notHandle : piece.1 ≠ handle := by
        intro same
        exact foreign (same ▸ known.2)
      have notLast := (dissection.bound member).ne
      rw [if_neg notLast, if_neg notHandle, if_neg notLast]
      exact known
    · rintro ⟨place, descends⟩
      by_cases isLast : piece.1 = layout.elements.length
      · rw [if_pos isLast] at descends
        exact absurd descends foreign
      · rw [if_neg isLast] at place descends
        have notHandle : piece.1 ≠ handle := by
          intro same
          exact foreign (same ▸ descends)
        rw [if_neg notHandle] at place
        exact (dissection.members piece).mpr ⟨place, descends⟩
  distinct := dissection.distinct
  joined := dissection.joined
  first := dissection.first

theorem mem_afterOwnCut {before after : List (Nat × Line ℚ)}
    (dissection : layout.Dissection root original (before ++ (handle, line) :: after))
    (parented : layout.Parented) (piece : Nat × Line ℚ) :
    piece ∈ before ++ (handle, line.leftPart x) ::
        (layout.elements.length, line.rightPart x handle) :: after ↔
      (layout.afterCut handle (line.leftPart x) (line.rightPart x handle)).line? piece.1 =
          some piece.2 ∧
        (layout.afterCut handle (line.leftPart x) (line.rightPart x handle)).Descends root
          piece.1 := by
  have member : (handle, line) ∈ before ++ (handle, line) :: after := by simp
  obtain ⟨found, descends⟩ := (dissection.members _).mp member
  have bound := line?_bound found
  rw [mem_replaced dissection.distinct, line?_afterCut _ _ bound,
    descends_afterCut parented dissection.root_bound found]
  constructor
  · rintro (rfl | rfl | ⟨old, notHandle⟩)
    · rw [if_neg bound.ne, if_pos rfl, if_neg bound.ne]
      exact ⟨rfl, descends⟩
    · rw [if_pos rfl, if_pos rfl]
      exact ⟨rfl, descends⟩
    · have notLast := (dissection.bound old).ne
      rw [if_neg notLast, if_neg notHandle, if_neg notLast]
      exact (dissection.members piece).mp old
  · rintro ⟨place, descendant⟩
    split at place
    · rename_i isLast
      exact Or.inr (Or.inl (Prod.ext isLast (Option.some.inj place).symm))
    · rename_i notLast
      rw [if_neg notLast] at descendant
      split at place
      · rename_i isHandle
        exact Or.inl (Prod.ext isHandle (Option.some.inj place).symm)
      · rename_i notHandle
        exact Or.inr (Or.inr ⟨(dissection.members piece).mpr ⟨place, descendant⟩, notHandle⟩)

theorem afterOwnCut {before after : List (Nat × Line ℚ)}
    (dissection : layout.Dissection root original (before ++ (handle, line) :: after))
    (parented : layout.Parented) (inside : line.start.x < x ∧ x < line.finish.x) :
    (layout.afterCut handle (line.leftPart x) (line.rightPart x handle)).Dissection root original
      (before ++ (handle, line.leftPart x) ::
        (layout.elements.length, line.rightPart x handle) :: after) := by
  refine ⟨dissection.mem_afterOwnCut parented, ?_, dissection.joined.cut inside _, ?_⟩
  · refine nodup_replaced dissection.distinct rfl ?_
    intro impossible
    obtain ⟨piece, placed, same⟩ := List.mem_map.mp impossible
    exact (dissection.bound placed).ne same
  · obtain ⟨head, rest, same, heads⟩ := dissection.first
    cases before with
    | nil =>
        simp only [List.nil_append, List.cons.injEq, Prod.mk.injEq] at same
        obtain ⟨⟨rfl, rfl⟩, _⟩ := same
        exact ⟨_, _, rfl, { heads with }⟩
    | cons piece before =>
        simp only [List.cons_append, List.cons.injEq] at same
        obtain ⟨rfl, _⟩ := same
        exact ⟨head, _, rfl, heads⟩

theorem afterCut (dissection : layout.Dissection root original pieces)
    (parented : layout.Parented) (found : layout.line? handle = some line)
    (inside : line.start.x < x ∧ x < line.finish.x) :
    ∃ others, (layout.afterCut handle (line.leftPart x) (line.rightPart x handle)).Dissection root
      original others := by
  by_cases descends : layout.Descends root handle
  · obtain ⟨before, after, rfl⟩ := List.append_of_mem
      ((dissection.members (handle, line)).mpr ⟨found, descends⟩)
    exact ⟨_, dissection.afterOwnCut parented inside⟩
  · exact ⟨pieces, dissection.afterOtherCut parented found descends⟩

end Cut

theorem afterSplit {upper lower : Nat} {up low : Line ℚ}
    (dissection : layout.Dissection root original pieces)
    (step : layout.SplitStep upper lower up low) :
    (layout.afterSplit upper lower up low).Dissection root original
      (pieces.map fun piece => (piece.1, splitLine upper lower up low piece.1 piece.2)) := by
  refine ⟨?_, ?_, dissection.joined.map ?_ ?_, ?_⟩
  · intro piece
    rw [line?_afterSplit_eq_map step, descends_congr (parent?_afterSplit step), List.mem_map]
    constructor
    · rintro ⟨old, member, rfl⟩
      obtain ⟨found, descends⟩ := (dissection.members old).mp member
      exact ⟨by rw [found, Option.map_some], descends⟩
    · rintro ⟨found, descends⟩
      obtain ⟨line, place, changed⟩ := Option.map_eq_some_iff.mp found
      exact ⟨(piece.1, line), (dissection.members _).mpr ⟨place, descends⟩, Prod.ext rfl changed⟩
  · rw [List.map_map]
    exact dissection.distinct
  · intro piece
    exact splitLine_same Line.start (fun _ _ => rfl) (fun _ _ => rfl)
  · intro piece
    exact splitLine_same Line.finish (fun _ _ => rfl) (fun _ _ => rfl)
  · obtain ⟨head, rest, rfl, heads⟩ := dissection.first
    refine ⟨_, _, rfl, ?_⟩
    exact splitLine_keeps (Line.Heads · original) (fun _ _ known => { known with })
      (fun _ _ known => { known with }) heads

end Dissection

theorem SettlingWith.pieceOf {admits : Line ℚ → ℚ → Prop} {layout state : Layout ℚ} {cuts : Nat}
    (run : SettlingWith admits layout cuts state) (declared : layout.Declared) {root : Nat}
    {original piece : Line ℚ} (found : layout.line? root = some original)
    (isPiece : state.IsPiece root piece) : original.PieceOf piece := by
  refine run.pieces_keep declared found (.refl original) ?_ ?_ ?_ piece isPiece
  · intro line x parent _ _ _ part
    exact ⟨part.leftPart x, part.rightPart x parent⟩
  · exact fun _ _ part => { part with }
  · exact fun _ _ part => { part with }

theorem SettlingWith.dissection {admits : Line ℚ → ℚ → Prop} {layout state : Layout ℚ}
    {cuts : Nat} (run : SettlingWith admits layout cuts state) (declared : layout.Declared)
    {root : Nat} {original : Line ℚ} (found : layout.line? root = some original) :
    ∃ pieces, state.Dissection root original pieces := by
  have sound := declared.allSound
  refine SettlingWith.along
    (motive := fun _ state => ∃ pieces, state.Dissection root original pieces) ?_ ?_ ?_ run
  · exact ⟨_, .initial found declared.parent?⟩
  · intro cuts state handle line x run before step _
    obtain ⟨pieces, dissection⟩ := before
    have inside := step.inside (run.sound sound handle line step.found)
    exact dissection.afterCut (run.parented declared) step.found inside
  · intro cuts state upper lower up low _ before step
    obtain ⟨pieces, dissection⟩ := before
    exact ⟨_, dissection.afterSplit step⟩

/-- What settling keeps: every declared line is still there in pieces, which fill its x-range, and
everything else is left alone. -/
structure Conserved (layout : Layout ℚ) (cuts : Nat) (state : Layout ℚ) : Prop
    extends layout.Untouched cuts state where
  lines : ∀ root original, layout.line? root = some original →
    ∃ pieces, state.Dissection root original pieces ∧ Tiling original pieces ∧
      ∀ piece ∈ pieces, original.PieceOf piece.2

/-- Whatever settling passes through conserves what was declared, and the number it returns is the
number of lines it appended. -/
theorem settling_conserves {layout : Layout ℚ} (built : layout.Built) :
    (∀ cuts state, Settling layout cuts state → layout.Conserved cuts state) ∧
      (∃ cuts, Settling layout cuts layout.settle.1) ∧
      ∀ count, layout.settle.2 = .ok count →
        layout.settle.1.elements.length = layout.elements.length + count := by
  have sound := built.declared.allSound
  obtain ⟨total, reached, outcome⟩ := (settle_ended sound).outcome
  refine ⟨?_, ⟨total, reached⟩, ?_⟩
  · intro cuts state run
    refine ⟨run.untouched, ?_⟩
    intro root original found
    obtain ⟨pieces, dissection⟩ := run.dissection built.declared found
    refine ⟨pieces, dissection, dissection.joined.tiling, ?_⟩
    intro piece member
    exact run.pieceOf built.declared found ⟨piece.1, (dissection.members piece).mp member⟩
  · intro count succeeded
    rcases outcome with done | ⟨upper, lower, failed⟩
    · obtain rfl : total = count := by simpa using done.symm.trans succeeded
      exact reached.untouched.count
    · simp [failed] at succeeded

theorem unevenLayout_conserved :
    unevenLayout.Built ∧ unevenLayout.settle.2.toOption = some 2 ∧
      (∀ cuts state, Settling unevenLayout cuts state → unevenLayout.Conserved cuts state) ∧
      (∃ cuts, Settling unevenLayout cuts unevenLayout.settle.1) ∧
      ∀ count, unevenLayout.settle.2 = .ok count →
        unevenLayout.settle.1.elements.length = unevenLayout.elements.length + count :=
  have built : unevenLayout.Built := built_ofLines _
  ⟨built, by decide +kernel, settling_conserves built⟩

end Layout

end Waveguide
