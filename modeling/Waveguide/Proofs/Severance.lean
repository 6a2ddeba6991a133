import Mathlib
import Waveguide.Proofs.Conservation
import Waveguide.Proofs.Consistency

/-!
What becomes of a line when its layout is settled once more. Some lines may be parts of others by
then; the parts that are cut off from now on are told apart by their places, which are new.
-/

namespace Waveguide

theorem Joined.finishes {start finish : Endpoint ℚ} {pieces : List (Nat × Line ℚ)}
    (joined : Joined start pieces finish) :
    ∃ others last, pieces = others ++ [last] ∧ last.2.finish = finish ∧
      ∀ piece ∈ others, piece.2.finish.attachment = none := by
  induction joined with
  | @single piece _ _ _ ending => exact ⟨[], piece, rfl, ending, by simp⟩
  | @cons piece _ point _ _ _ meets _ _ _ ih =>
      obtain ⟨others, last, rfl, ending, loose⟩ := ih
      refine ⟨piece :: others, last, rfl, ending, ?_⟩
      rw [List.forall_mem_cons, meets]
      exact ⟨rfl, loose⟩

namespace Layout

def CutSince (layout : Layout ℚ) (root : Nat) (places : List Nat) (piece : Nat × Line ℚ) : Prop :=
  piece.1 = root ∨
    layout.elements.length ≤ piece.1 ∧ ∃ parent ∈ places, piece.2.parent = some parent

structure Severed (layout state : Layout ℚ) (root : Nat) (original : Line ℚ)
    (pieces : List (Nat × Line ℚ)) : Prop where
  members : ∀ piece, piece ∈ pieces ↔
    state.line? piece.1 = some piece.2 ∧ layout.CutSince root (pieces.map Prod.fst) piece
  distinct : (pieces.map Prod.fst).Nodup
  joined : Joined original.start pieces original.finish
  first : ∃ line rest, pieces = (root, line) :: rest

namespace Severed

variable {layout state : Layout ℚ} {root : Nat} {original : Line ℚ}
  {pieces : List (Nat × Line ℚ)}

theorem initial (found : layout.line? root = some original) :
    layout.Severed layout root original [(root, original)] where
  members := by
    rintro ⟨handle, line⟩
    rw [List.mem_singleton]
    constructor
    · rintro ⟨rfl, rfl⟩
      exact ⟨found, Or.inl rfl⟩
    · rintro ⟨placed, same | ⟨appended, _⟩⟩
      · obtain rfl : handle = root := same
        exact Prod.ext rfl (Option.some.inj (placed.symm.trans found))
      · exact absurd (line?_bound placed) (not_lt.mpr appended)
  distinct := List.nodup_singleton _
  joined := .single rfl rfl
  first := ⟨original, [], rfl⟩

theorem bound (severed : layout.Severed state root original pieces) {handle : Nat}
    (here : handle ∈ pieces.map Prod.fst) : handle < state.elements.length := by
  obtain ⟨piece, member, rfl⟩ := List.mem_map.mp here
  exact line?_bound ((severed.members piece).mp member).1

theorem root_mem (severed : layout.Severed state root original pieces) :
    root ∈ pieces.map Prod.fst := by
  obtain ⟨line, rest, rfl⟩ := severed.first
  exact List.mem_cons_self

section Cut

variable {handle : Nat} {line : Line ℚ} {x : ℚ}

theorem afterOtherCut (severed : layout.Severed state root original pieces)
    (found : state.line? handle = some line) (foreign : handle ∉ pieces.map Prod.fst) :
    layout.Severed (state.afterCut handle (line.leftPart x) (line.rightPart x handle)) root
      original pieces where
  members := by
    rintro ⟨place, piece⟩
    rw [line?_afterCut _ _ (line?_bound found)]
    constructor
    · intro member
      have here : place ∈ pieces.map Prod.fst := List.mem_map_of_mem member
      have notLast : place ≠ state.elements.length := (severed.bound here).ne
      have notHandle : place ≠ handle := fun same => foreign (same ▸ here)
      rw [if_neg notLast, if_neg notHandle]
      exact (severed.members _).mp member
    · rintro ⟨placed, origin⟩
      split at placed
      · rename_i isLast
        obtain rfl := Option.some.inj placed
        rcases origin with isRoot | ⟨_, parent, isPiece, cutFrom⟩
        · exact absurd (isRoot.symm.trans isLast) (severed.bound severed.root_mem).ne
        · obtain rfl : handle = parent := Option.some.inj cutFrom
          exact absurd isPiece foreign
      · split at placed
        · rename_i isHandle
          obtain rfl : place = handle := isHandle
          obtain rfl := Option.some.inj placed
          -- A cut leaves the parent of the line, so the line would have been a piece before.
          have member := (severed.members (place, line)).mpr ⟨found, origin⟩
          exact absurd (List.mem_map_of_mem member) foreign
        · exact (severed.members _).mpr ⟨placed, origin⟩
  distinct := severed.distinct
  joined := severed.joined
  first := severed.first

theorem mem_afterOwnCut {before after : List (Nat × Line ℚ)}
    (severed : layout.Severed state root original (before ++ (handle, line) :: after))
    (parented : state.Parented) (longer : layout.elements.length ≤ state.elements.length)
    (piece : Nat × Line ℚ) :
    let parts := before ++ (handle, line.leftPart x) ::
      (state.elements.length, line.rightPart x handle) :: after
    piece ∈ parts ↔
      (state.afterCut handle (line.leftPart x) (line.rightPart x handle)).line? piece.1 =
          some piece.2 ∧
        layout.CutSince root (parts.map Prod.fst) piece := by
  intro parts
  obtain ⟨found, origin⟩ := (severed.members (handle, line)).mp (by simp)
  have places : ∀ place, place ∈ parts.map Prod.fst ↔ place = state.elements.length ∨
      place ∈ (before ++ (handle, line) :: after).map Prod.fst := by
    intro place
    simp only [parts, List.map_append, List.map_cons, List.mem_append, List.mem_cons]
    tauto
  have wider : ∀ {other}, layout.CutSince root
      ((before ++ (handle, line) :: after).map Prod.fst) other →
        layout.CutSince root (parts.map Prod.fst) other := by
    rintro other (isRoot | ⟨appended, parent, member, cutFrom⟩)
    · exact Or.inl isRoot
    · exact Or.inr ⟨appended, parent, (places parent).mpr (Or.inr member), cutFrom⟩
  have bound := line?_bound found
  obtain ⟨place, piece⟩ := piece
  rw [mem_replaced severed.distinct, line?_afterCut _ _ bound]
  constructor
  · rintro (left | fragment | ⟨old, notHandle⟩)
    · obtain ⟨rfl, rfl⟩ := Prod.mk.inj left
      rw [if_neg bound.ne, if_pos rfl]
      exact ⟨rfl, wider origin⟩
    · obtain ⟨rfl, rfl⟩ := Prod.mk.inj fragment
      rw [if_pos rfl]
      exact ⟨rfl, Or.inr ⟨longer, handle, (places handle).mpr (Or.inr (by simp)), rfl⟩⟩
    · have known := (severed.members _).mp old
      rw [if_neg (line?_bound known.1).ne, if_neg notHandle]
      exact ⟨known.1, wider known.2⟩
  · rintro ⟨placed, cutSince⟩
    split at placed
    · rename_i isLast
      exact Or.inr (Or.inl (Prod.ext isLast (Option.some.inj placed).symm))
    · rename_i notLast
      split at placed
      · rename_i isHandle
        exact Or.inl (Prod.ext isHandle (Option.some.inj placed).symm)
      · rename_i notHandle
        refine Or.inr (Or.inr ⟨(severed.members _).mpr ⟨placed, ?_⟩, notHandle⟩)
        rcases cutSince with isRoot | ⟨appended, parent, member, cutFrom⟩
        · exact Or.inl isRoot
        · refine Or.inr ⟨appended, parent, ?_, cutFrom⟩
          have earlier : parent < place := parented place parent (by
            rw [parent?, placed]
            exact cutFrom)
          have last := line?_bound placed
          exact ((places parent).mp member).resolve_left (by omega)

theorem afterCut (severed : layout.Severed state root original pieces)
    (parented : state.Parented) (longer : layout.elements.length ≤ state.elements.length)
    (found : state.line? handle = some line) (inside : line.start.x < x ∧ x < line.finish.x) :
    ∃ parts, layout.Severed (state.afterCut handle (line.leftPart x) (line.rightPart x handle)) root
      original parts := by
  by_cases own : handle ∈ pieces.map Prod.fst
  · obtain ⟨⟨place, piece⟩, member, rfl⟩ := List.mem_map.mp own
    obtain rfl : piece = line :=
      Option.some.inj (((severed.members _).mp member).1.symm.trans found)
    obtain ⟨before, after, rfl⟩ := List.append_of_mem member
    refine ⟨_, severed.mem_afterOwnCut parented longer, ?_, severed.joined.cut inside _, ?_⟩
    · refine nodup_replaced severed.distinct rfl fun impossible => ?_
      exact (severed.bound impossible).ne rfl
    · obtain ⟨head, rest, same⟩ := severed.first
      cases before with
      | nil =>
          obtain ⟨isRoot, _⟩ := Prod.mk.inj (List.cons.inj same).1
          exact ⟨_, _, by rw [← isRoot]; rfl⟩
      | cons first before =>
          obtain ⟨rfl, _⟩ := List.cons.inj same
          exact ⟨head, _, rfl⟩
  · exact ⟨pieces, severed.afterOtherCut found own⟩

end Cut

theorem afterSplit {upper lower : Nat} {up low : Line ℚ}
    (severed : layout.Severed state root original pieces)
    (step : state.SplitStep upper lower up low) :
    layout.Severed (state.afterSplit upper lower up low) root original
      (pieces.map fun piece => (piece.1, splitLine upper lower up low piece.1 piece.2)) := by
  have places : (pieces.map fun piece =>
      (piece.1, splitLine upper lower up low piece.1 piece.2)).map Prod.fst =
        pieces.map Prod.fst := List.map_map
  have parents : ∀ handle line, (splitLine upper lower up low handle line).parent = line.parent :=
    fun _ _ => splitLine_same Line.parent (fun _ _ => rfl) (fun _ _ => rfl)
  refine ⟨?_, by rw [places]; exact severed.distinct, severed.joined.map ?_ ?_, ?_⟩
  · rintro ⟨place, piece⟩
    rw [places, line?_afterSplit_eq_map step, List.mem_map]
    constructor
    · rintro ⟨⟨handle, line⟩, member, same⟩
      obtain ⟨rfl, rfl⟩ := Prod.mk.inj same
      obtain ⟨found, origin⟩ := (severed.members _).mp member
      refine ⟨by rw [found, Option.map_some], ?_⟩
      simpa only [CutSince, parents] using origin
    · rintro ⟨found, origin⟩
      obtain ⟨line, placed, changed⟩ := Option.map_eq_some_iff.mp found
      refine ⟨(place, line), (severed.members _).mpr ⟨placed, ?_⟩, Prod.ext rfl changed⟩
      have parent : piece.parent = line.parent :=
        (congrArg Line.parent changed.symm).trans (parents place line)
      simpa only [CutSince, parent] using origin
  · exact fun piece => splitLine_same Line.start (fun _ _ => rfl) (fun _ _ => rfl)
  · exact fun piece => splitLine_same Line.finish (fun _ _ => rfl) (fun _ _ => rfl)
  · obtain ⟨line, rest, rfl⟩ := severed.first
    exact ⟨_, _, rfl⟩

end Severed

theorem Consistent.parented {layout : Layout ℚ} (consistent : layout.Consistent) :
    layout.Parented := by
  intro handle parent cutFrom
  obtain ⟨line, found, isPart⟩ := Option.bind_eq_some_iff.mp cutFrom
  have known := consistent.placed handle _ (line?_eq_some_iff.mp found)
  exact (known.fragment line parent rfl isPart).earlier

/-- Whatever settling passes through, each line is still there in pieces that fill its place. -/
theorem Consistent.severed {layout state : Layout ℚ} {cuts : Nat} (consistent : layout.Consistent)
    (run : Settling layout cuts state) {root : Nat} {original : Line ℚ}
    (found : layout.line? root = some original) :
    ∃ pieces, layout.Severed state root original pieces := by
  refine SettlingWith.along
    (motive := fun _ state => ∃ pieces, layout.Severed state root original pieces)
    ⟨_, .initial found⟩ ?_ ?_ run
  · rintro cuts state handle line x run ⟨pieces, severed⟩ step -
    have known := consistent.settling run
    have inside := step.inside (known.line step.found).toSound
    have longer : layout.elements.length ≤ state.elements.length := by
      rw [run.untouched.count]
      exact Nat.le_add_right _ _
    exact severed.afterCut known.parented longer step.found inside
  · rintro cuts state upper lower up low - ⟨pieces, severed⟩ step
    exact ⟨_, severed.afterSplit step⟩

end Layout

end Waveguide
