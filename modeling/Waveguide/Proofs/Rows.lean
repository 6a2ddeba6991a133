import Mathlib
import Waveguide.Proofs.Anchors
import Waveguide.Proofs.Conservation

/-!
What cuts leave of the lines of a layout, whatever its numbers are. Each line is still there in a
row of parts, from where it began to where it ended. Nothing is attached to the points where two
parts meet, and they bear no marks.
-/

namespace Waveguide

variable {K : Type}

/-- Lines in a row from one endpoint to another. The points where two of them meet are bare. -/
inductive Row : Endpoint K → List (Nat × Line K) → Endpoint K → Prop
  | single {part start finish} : part.2.start = start → part.2.finish = finish →
      Row start [part] finish
  | cons {part start point parts finish} : part.2.start = start → part.2.finish = .plain point →
      Row (.plain point) parts finish → Row start (part :: parts) finish

namespace Row

variable {start finish : Endpoint K} {parts : List (Nat × Line K)}

theorem cut [Scalar K] {before after : List (Nat × Line K)} {handle : Nat} {line : Line K}
    (row : Row start (before ++ (handle, line) :: after) finish) (x : K) (fragment : Nat) :
    Row start
      (before ++ (handle, line.leftPart x) :: (fragment, line.rightPart x handle) :: after)
      finish := by
  induction before generalizing start with
  | nil =>
      cases row with
      | single first last => exact .cons first rfl (.single rfl last)
      | cons first last rest => exact .cons first rfl (.cons rfl last rest)
  | cons part before ih =>
      rw [List.cons_append] at row ⊢
      generalize tail : before ++ (handle, line) :: after = others at row
      cases row with
      | single first last => simp at tail
      | cons first last rest =>
          subst tail
          exact .cons first last (ih rest)

theorem map (row : Row start parts finish) {change : Nat × Line K → Nat × Line K}
    (starts : ∀ part, (change part).2.start = part.2.start)
    (finishes : ∀ part, (change part).2.finish = part.2.finish) :
    Row start (parts.map change) finish := by
  induction row with
  | single first last => exact .single ((starts _).trans first) ((finishes _).trans last)
  | cons first last _ ih => exact .cons ((starts _).trans first) ((finishes _).trans last) ih

theorem head (row : Row start parts finish) :
    ∃ first rest, parts = first :: rest ∧ first.2.start = start := by
  cases row with
  | single first _ => exact ⟨_, _, rfl, first⟩
  | cons first _ _ => exact ⟨_, _, rfl, first⟩

theorem last (row : Row start parts finish) :
    ∃ others last, parts = others ++ [last] ∧ last.2.finish = finish := by
  induction row with
  | single _ last => exact ⟨[], _, rfl, last⟩
  | @cons part _ _ _ _ _ _ _ ih =>
      obtain ⟨others, last, rfl, ending⟩ := ih
      exact ⟨part :: others, last, rfl, ending⟩

theorem meeting (row : Row start parts finish) :
    parts.IsChain fun a b => ∃ point, a.2.finish = .plain point ∧ b.2.start = .plain point := by
  induction row with
  | single _ _ => exact .singleton _
  | cons first last rest ih =>
      obtain ⟨next, others, rfl, meets⟩ := rest.head
      exact .cons_cons ⟨_, last, meets⟩ ih

end Row

namespace Layout

inductive PartOf (layout : Layout K) (root : Nat) : Nat × Line K → Prop
  | root {line} : layout.line? root = some line → PartOf layout root (root, line)
  | fragment {whole part} : PartOf layout root whole → layout.line? part.1 = some part.2 →
      part.2.parent = some whole.1 → PartOf layout root part

section PartOf

variable {layout : Layout K} {root : Nat} {part : Nat × Line K}

theorem PartOf.found (partOf : layout.PartOf root part) : layout.line? part.1 = some part.2 := by
  cases partOf with
  | root found => exact found
  | fragment _ found _ => exact found

theorem PartOf.mono (partOf : layout.PartOf root part) {other : Layout K}
    (stays : ∀ place line, layout.line? place = some line →
      ∃ now, other.line? place = some now ∧ now.parent = line.parent)
    {now : Line K} (placed : other.line? part.1 = some now) : other.PartOf root (part.1, now) := by
  induction partOf generalizing now with
  | root _ => exact .root placed
  | fragment whole found cutFrom ih =>
      obtain ⟨former, there, _⟩ := stays _ _ whole.found
      obtain ⟨same, here, parent⟩ := stays _ _ found
      obtain rfl := Option.some.inj (here.symm.trans placed)
      exact .fragment (ih there) placed (parent.trans cutFrom)

theorem partOf_map {other : Layout K} {change : Nat → Line K → Line K}
    (lines : ∀ place, other.line? place = (layout.line? place).map (change place))
    (parents : ∀ place line, (change place line).parent = line.parent) :
    other.PartOf root part ↔
      ∃ old, layout.PartOf root old ∧ (old.1, change old.1 old.2) = part := by
  constructor
  · intro partOf
    have placed := partOf.found
    rw [lines] at placed
    obtain ⟨line, found, same⟩ := Option.map_eq_some_iff.mp placed
    refine ⟨(part.1, line), partOf.mono ?_ found, Prod.ext rfl same⟩
    intro place now there
    rw [lines] at there
    obtain ⟨former, known, rfl⟩ := Option.map_eq_some_iff.mp there
    exact ⟨former, known, (parents _ _).symm⟩
  · rintro ⟨old, known, rfl⟩
    have changed : ∀ place line, layout.line? place = some line →
        other.line? place = some (change place line) := by
      intro place line found
      rw [lines, found, Option.map_some]
    exact known.mono (fun place line found => ⟨_, changed place line found, parents _ _⟩)
      (changed _ _ known.found)

def ParentsEarlier (layout : Layout K) : Prop :=
  ∀ place line parent, layout.line? place = some line → line.parent = some parent → parent < place

theorem ParentsEarlier.map (earlier : layout.ParentsEarlier) {other : Layout K}
    {change : Nat → Line K → Line K}
    (lines : ∀ place, other.line? place = (layout.line? place).map (change place))
    (parents : ∀ place line, (change place line).parent = line.parent) :
    other.ParentsEarlier := by
  intro place now parent placed cutFrom
  rw [lines] at placed
  obtain ⟨former, known, rfl⟩ := Option.map_eq_some_iff.mp placed
  exact earlier place former parent known ((parents _ _).symm.trans cutFrom)

section Cut

variable [Scalar K] {handle : Nat} {line : Line K} {x : K}

theorem ParentsEarlier.afterCut (earlier : layout.ParentsEarlier)
    (found : layout.line? handle = some line) (x : K) :
    (layout.afterCut handle (line.leftPart x) (line.rightPart x handle)).ParentsEarlier := by
  intro place now parent placed cutFrom
  rw [line?_afterCut _ _ (line?_bound found)] at placed
  split at placed
  · rename_i isLast
    obtain rfl := Option.some.inj placed
    obtain rfl : handle = parent := Option.some.inj cutFrom
    rw [isLast]
    exact line?_bound found
  · split at placed
    · rename_i here
      subst here
      obtain rfl := Option.some.inj placed
      exact earlier place line parent found cutFrom
    · exact earlier place now parent placed cutFrom

theorem PartOf.of_afterCut
    (partOf : (layout.afterCut handle (line.leftPart x) (line.rightPart x handle)).PartOf root part)
    (earlier : layout.ParentsEarlier) (old : root < layout.elements.length)
    (found : layout.line? handle = some line) :
    layout.PartOf root (handle, line) ∧
        (part = (handle, line.leftPart x) ∨
          part = (layout.elements.length, line.rightPart x handle)) ∨
      layout.PartOf root part ∧ part.1 ≠ handle := by
  have bound := line?_bound found
  have lines := line?_afterCut (line.leftPart x) (line.rightPart x handle) bound
  induction partOf with
  | root placed =>
      rw [lines, if_neg old.ne] at placed
      split at placed
      · rename_i here
        subst here
        obtain rfl := Option.some.inj placed
        exact Or.inl ⟨.root found, Or.inl rfl⟩
      · rename_i elsewhere
        exact Or.inr ⟨.root placed, elsewhere⟩
  | @fragment whole part _ placed cutFrom ih =>
      have former : whole.1 < layout.elements.length →
          ∃ line, layout.PartOf root (whole.1, line) := by
        intro within
        rcases ih with ⟨known, rfl | rfl⟩ | ⟨known, _⟩
        · exact ⟨line, known⟩
        · exact absurd rfl within.ne
        · exact ⟨whole.2, known⟩
      rw [lines] at placed
      split at placed
      · rename_i isLast
        have isFragment := Option.some.inj placed
        rw [← isFragment] at cutFrom
        have same : handle = whole.1 := Option.some.inj cutFrom
        obtain ⟨other, known⟩ := former (same ▸ bound)
        rw [← same] at known
        obtain rfl := Option.some.inj (found.symm.trans known.found)
        exact Or.inl ⟨known, Or.inr (Prod.ext isLast isFragment.symm)⟩
      · split at placed
        · rename_i isHandle
          have isLeft := Option.some.inj placed
          rw [← isLeft] at cutFrom
          obtain ⟨other, known⟩ := former ((earlier _ _ _ found cutFrom).trans bound)
          exact Or.inl ⟨.fragment known found cutFrom, Or.inl (Prod.ext isHandle isLeft.symm)⟩
        · rename_i elsewhere
          have within := (earlier _ _ _ placed cutFrom).trans (line?_bound placed)
          obtain ⟨other, known⟩ := former within
          exact Or.inr ⟨.fragment known placed cutFrom, elsewhere⟩

theorem partOf_afterCut (earlier : layout.ParentsEarlier) (old : root < layout.elements.length)
    (found : layout.line? handle = some line) (x : K) (part : Nat × Line K) :
    (layout.afterCut handle (line.leftPart x) (line.rightPart x handle)).PartOf root part ↔
      layout.PartOf root (handle, line) ∧
          (part = (handle, line.leftPart x) ∨
            part = (layout.elements.length, line.rightPart x handle)) ∨
        layout.PartOf root part ∧ part.1 ≠ handle := by
  refine ⟨fun partOf => partOf.of_afterCut earlier old found, ?_⟩
  have bound := line?_bound found
  have lines := line?_afterCut (line.leftPart x) (line.rightPart x handle) bound
  have here : (layout.afterCut handle (line.leftPart x) (line.rightPart x handle)).line? handle =
      some (line.leftPart x) := by
    rw [lines, if_neg bound.ne, if_pos rfl]
  have elsewhere : ∀ place other, layout.line? place = some other → place ≠ handle →
      (layout.afterCut handle (line.leftPart x) (line.rightPart x handle)).line? place =
        some other := by
    intro place other placed different
    rw [lines, if_neg (line?_bound placed).ne, if_neg different, placed]
  have stays : ∀ place other, layout.line? place = some other → ∃ now,
      (layout.afterCut handle (line.leftPart x) (line.rightPart x handle)).line? place =
        some now ∧ now.parent = other.parent := by
    intro place other placed
    by_cases same : place = handle
    · subst same
      obtain rfl := Option.some.inj (found.symm.trans placed)
      exact ⟨line.leftPart x, here, rfl⟩
    · exact ⟨other, elsewhere place other placed same, rfl⟩
  rintro (⟨known, rfl | rfl⟩ | ⟨known, different⟩)
  · exact known.mono stays here
  · exact .fragment (known.mono stays here) ((lines _).trans (if_pos rfl)) rfl
  · exact known.mono stays (elsewhere _ _ known.found different)

end Cut

end PartOf

structure InParts (layout : Layout K) (root : Nat) (original : Line K)
    (parts : List (Nat × Line K)) : Prop where
  members : ∀ part, part ∈ parts ↔ layout.PartOf root part
  distinct : (parts.map Prod.fst).Nodup
  row : Row original.start parts original.finish
  first : ∃ line rest, parts = (root, line) :: rest

namespace InParts

variable {layout : Layout K} {root : Nat} {original : Line K} {parts : List (Nat × Line K)}

theorem initial (found : layout.line? root = some original)
    (whole : ∀ place line, layout.line? place = some line → line.parent = none) :
    layout.InParts root original [(root, original)] where
  members := by
    intro part
    rw [List.mem_singleton]
    constructor
    · rintro rfl
      exact .root found
    · intro partOf
      cases partOf with
      | root placed => rw [Option.some.inj (placed.symm.trans found)]
      | fragment _ placed cutFrom => simp [whole _ _ placed] at cutFrom
  distinct := List.nodup_singleton _
  row := .single rfl rfl
  first := ⟨original, [], rfl⟩

theorem map (inParts : layout.InParts root original parts) {other : Layout K}
    {change : Nat → Line K → Line K}
    (lines : ∀ place, other.line? place = (layout.line? place).map (change place))
    (parents : ∀ place line, (change place line).parent = line.parent)
    (starts : ∀ place line, (change place line).start = line.start)
    (finishes : ∀ place line, (change place line).finish = line.finish) :
    other.InParts root original (parts.map fun part => (part.1, change part.1 part.2)) where
  members := by
    intro part
    simp only [partOf_map lines parents, List.mem_map, inParts.members]
  distinct := by
    rw [List.map_map]
    exact inParts.distinct
  row := inParts.row.map (fun part => starts _ _) fun part => finishes _ _
  first := by
    obtain ⟨line, rest, rfl⟩ := inParts.first
    exact ⟨_, _, rfl⟩

theorem bound (inParts : layout.InParts root original parts) {place : Nat}
    (here : place ∈ parts.map Prod.fst) : place < layout.elements.length := by
  obtain ⟨part, member, rfl⟩ := List.mem_map.mp here
  exact line?_bound ((inParts.members part).mp member).found

theorem root_bound (inParts : layout.InParts root original parts) :
    root < layout.elements.length := by
  obtain ⟨line, rest, rfl⟩ := inParts.first
  exact inParts.bound List.mem_cons_self

section Cut

variable [Scalar K] {handle : Nat} {line : Line K}

theorem afterOwnCut {before after : List (Nat × Line K)}
    (inParts : layout.InParts root original (before ++ (handle, line) :: after))
    (earlier : layout.ParentsEarlier) (x : K) :
    (layout.afterCut handle (line.leftPart x) (line.rightPart x handle)).InParts root original
      (before ++ (handle, line.leftPart x) ::
        (layout.elements.length, line.rightPart x handle) :: after) where
  members := by
    intro part
    have own : layout.PartOf root (handle, line) := (inParts.members _).mp (by simp)
    rw [mem_replaced inParts.distinct, partOf_afterCut earlier inParts.root_bound own.found,
      inParts.members, and_iff_right own, or_assoc]
  distinct := by
    refine nodup_replaced inParts.distinct rfl fun impossible => ?_
    exact (inParts.bound impossible).ne rfl
  row := inParts.row.cut x _
  first := by
    obtain ⟨head, rest, same⟩ := inParts.first
    cases before with
    | nil =>
        obtain ⟨isRoot, _⟩ := Prod.mk.inj (List.cons.inj same).1
        exact ⟨_, _, by rw [← isRoot]; rfl⟩
    | cons first before =>
        obtain ⟨rfl, _⟩ := List.cons.inj same
        exact ⟨head, _, rfl⟩

theorem afterOtherCut (inParts : layout.InParts root original parts)
    (earlier : layout.ParentsEarlier) (found : layout.line? handle = some line)
    (foreign : ¬ layout.PartOf root (handle, line)) (x : K) :
    (layout.afterCut handle (line.leftPart x) (line.rightPart x handle)).InParts root original
      parts where
  members := by
    intro part
    rw [partOf_afterCut earlier inParts.root_bound found, inParts.members]
    constructor
    · intro known
      refine Or.inr ⟨known, fun here => foreign ?_⟩
      obtain ⟨place, piece⟩ := part
      obtain rfl : place = handle := here
      rwa [Option.some.inj (found.symm.trans known.found)]
    · rintro (⟨impossible, _⟩ | ⟨known, _⟩)
      · exact absurd impossible foreign
      · exact known
  distinct := inParts.distinct
  row := inParts.row
  first := inParts.first

theorem afterCut (inParts : layout.InParts root original parts) (earlier : layout.ParentsEarlier)
    (found : layout.line? handle = some line) (x : K) :
    ∃ others, (layout.afterCut handle (line.leftPart x) (line.rightPart x handle)).InParts root
      original others := by
  by_cases own : layout.PartOf root (handle, line)
  · obtain ⟨before, after, rfl⟩ := List.append_of_mem ((inParts.members _).mpr own)
    exact ⟨_, inParts.afterOwnCut earlier x⟩
  · exact ⟨parts, inParts.afterOtherCut earlier found own x⟩

end Cut

end InParts

section Connectors

variable {layout : Layout K} {handle place : Nat} {line : Line K} {connector : Connector K}

theorem connector_setLine (new : Line K) (found : layout.line? handle = some line) :
    (layout.setLine handle new).elements[place]? = some (Element.connector connector) ↔
      layout.elements[place]? = some (Element.connector connector) := by
  rw [elements_setLine _ (line?_bound found)]
  split
  · rename_i here
    simp [here, line?_eq_some_iff.mp found]
  · rfl

theorem connector_afterCut (left fragment : Line K) (found : layout.line? handle = some line) :
    (layout.afterCut handle left fragment).elements[place]? =
        some (Element.connector connector) ↔
      layout.elements[place]? = some (Element.connector connector) := by
  rw [elements_afterCut _ _ (line?_bound found)]
  split
  · rename_i isLast
    simp [isLast]
  · split
    · rename_i here
      simp [here, line?_eq_some_iff.mp found]
    · rfl

end Connectors

def softenedAt (handle : Nat) (clearance : Clearance K) (place : Nat) (line : Line K) : Line K :=
  if place = handle then { line with clearance } else line

theorem softenedAt_same {α : Type} (view : Line K → α)
    (blind : ∀ line clearance, view { line with clearance } = view line)
    (handle : Nat) (clearance : Clearance K) (place : Nat) (line : Line K) :
    view (softenedAt handle clearance place line) = view line := by
  unfold softenedAt
  split
  · exact blind line clearance
  · rfl

theorem line?_soften {layout : Layout K} {handle : Nat} {line : Line K}
    (found : layout.line? handle = some line) (clearance : Clearance K) (place : Nat) :
    (layout.setLine handle { line with clearance }).line? place =
      (layout.line? place).map (softenedAt handle clearance place) := by
  rw [line?_setLine _ (line?_bound found)]
  split
  · rename_i here
    rw [here, found, Option.map_some, softenedAt, if_pos rfl]
  · rename_i elsewhere
    have same : softenedAt handle clearance place = id := funext fun line => if_neg elsewhere
    rw [same, Option.map_id, id]

/-- A layout on the way to being settled. The connectors are those that were declared, each line
that was declared is in parts, and there are no other lines. -/
structure Sectioned (declared state : Layout K) : Prop where
  longer : declared.elements.length ≤ state.elements.length
  connectors : ∀ (place : Nat) (connector : Connector K),
    state.elements[place]? = some (.connector connector) ↔
      declared.elements[place]? = some (.connector connector)
  earlier : state.ParentsEarlier
  lines : ∀ root original, declared.line? root = some original →
    ∃ parts, state.InParts root original parts
  parts : ∀ place line, state.line? place = some line →
    ∃ root original, declared.line? root = some original ∧ state.PartOf root (place, line)

theorem Fresh.parent_eq_none {layout : Layout K} (fresh : layout.Fresh) {place : Nat}
    {line : Line K} (found : layout.line? place = some line) : line.parent = none :=
  fresh.whole _ (List.mem_of_getElem? (line?_eq_some_iff.mp found))

theorem Fresh.sectioned {declared : Layout K} (fresh : declared.Fresh) :
    Sectioned declared declared where
  longer := le_rfl
  connectors _ _ := Iff.rfl
  earlier := by
    intro place line parent found cutFrom
    simp [fresh.parent_eq_none found] at cutFrom
  lines _ original found := ⟨[(_, original)], .initial found fun _ _ => fresh.parent_eq_none⟩
  parts place line found := ⟨place, line, found, .root found⟩

namespace Sectioned

variable {declared state : Layout K} {handle : Nat} {line : Line K}

theorem root_bound (sectioned : Sectioned declared state) {root : Nat} {original : Line K}
    (found : declared.line? root = some original) : root < state.elements.length :=
  (line?_bound found).trans_le sectioned.longer

theorem soften (sectioned : Sectioned declared state) (found : state.line? handle = some line)
    (clearance : Clearance K) :
    Sectioned declared (state.setLine handle { line with clearance }) where
  longer := by
    rw [setLine, List.length_set]
    exact sectioned.longer
  connectors := by
    intro place connector
    rw [connector_setLine _ found, sectioned.connectors]
  earlier := sectioned.earlier.map (line?_soften found clearance)
    (softenedAt_same Line.parent (fun _ _ => rfl) handle clearance)
  lines := by
    intro root original declaredThere
    obtain ⟨parts, inParts⟩ := sectioned.lines root original declaredThere
    exact ⟨_, inParts.map (line?_soften found clearance)
      (softenedAt_same Line.parent (fun _ _ => rfl) handle clearance)
      (softenedAt_same Line.start (fun _ _ => rfl) handle clearance)
      (softenedAt_same Line.finish (fun _ _ => rfl) handle clearance)⟩
  parts := by
    intro place now placed
    have lines := line?_soften found clearance
    rw [lines] at placed
    obtain ⟨former, known, rfl⟩ := Option.map_eq_some_iff.mp placed
    obtain ⟨root, original, declaredThere, partOf⟩ := sectioned.parts place former known
    refine ⟨root, original, declaredThere, (partOf_map lines ?_).mpr ⟨_, partOf, rfl⟩⟩
    exact softenedAt_same Line.parent (fun _ _ => rfl) handle clearance

theorem afterCut [Scalar K] (sectioned : Sectioned declared state)
    (found : state.line? handle = some line) (x : K) :
    Sectioned declared
      (state.afterCut handle (line.leftPart x) (line.rightPart x handle)) where
  longer := by
    simp only [Layout.afterCut, List.length_append, List.length_set]
    exact Nat.le_add_right_of_le sectioned.longer
  connectors := by
    intro place connector
    rw [connector_afterCut _ _ found, sectioned.connectors]
  earlier := sectioned.earlier.afterCut found x
  lines := by
    intro root original declaredThere
    obtain ⟨parts, inParts⟩ := sectioned.lines root original declaredThere
    exact inParts.afterCut sectioned.earlier found x
  parts := by
    intro place now placed
    rw [line?_afterCut _ _ (line?_bound found)] at placed
    obtain ⟨root, original, declaredThere, known⟩ := sectioned.parts handle line found
    have cut := partOf_afterCut sectioned.earlier (sectioned.root_bound declaredThere) found x
    split at placed
    · rename_i isLast
      obtain rfl := Option.some.inj placed
      exact ⟨root, original, declaredThere,
        (cut _).mpr (Or.inl ⟨known, Or.inr (Prod.ext isLast rfl)⟩)⟩
    · split at placed
      · rename_i here
        obtain rfl := Option.some.inj placed
        exact ⟨root, original, declaredThere,
          (cut _).mpr (Or.inl ⟨known, Or.inl (Prod.ext here rfl)⟩)⟩
      · rename_i elsewhere
        obtain ⟨root, original, declaredThere, known⟩ := sectioned.parts place now placed
        have cut := partOf_afterCut sectioned.earlier (sectioned.root_bound declaredThere) found x
        exact ⟨root, original, declaredThere, (cut _).mpr (Or.inr ⟨known, elsewhere⟩)⟩

end Sectioned

end Layout

end Waveguide
