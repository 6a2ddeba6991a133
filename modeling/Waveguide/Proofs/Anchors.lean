import Mathlib
import Waveguide.Scene
import Waveguide.Proofs.Points
import Waveguide.Proofs.Settling

/-!
What sources and observers refer to. They are placed when the layout is settled, and settling leaves
a line that it cuts with its left part only. So a reference finds the point that its element was
declared with, unless it is the end of a line that was cut: that one has moved to a place of a cut.
-/

namespace Waveguide

variable {K : Type}

def Element.parent? : Element K → Option Nat
  | .line placed => placed.parent
  | .connector _ => none

@[simp] theorem Element.parent?_modifyTip (element : Element K) (change : Endpoint K → Endpoint K)
    (tip : Tip) : (element.modifyTip change tip).parent? = element.parent? := by
  cases element with
  | line placed => cases tip <;> rfl
  | connector placed => cases tip <;> rfl

namespace Layout

structure Fresh (layout : Layout K) : Prop where
  named : ∀ id handle, layout.index.find? id = some handle → handle < layout.elements.length
  whole : ∀ element ∈ layout.elements, element.parent? = none

section Fresh

variable {layout : Layout K}

theorem fresh_empty [Scalar K] (thickness : Option K) : (Layout.empty thickness).Fresh where
  named := by
    intro id handle impossible
    simp [Layout.empty, IdIndex.empty, IdIndex.find?] at impossible
  whole := by
    intro element impossible
    exact absurd impossible List.not_mem_nil

theorem find?_register_iff {index next : IdIndex} {id name : String} {handle new : Nat}
    (registered : index.register (K := K) name new = .ok next) :
    next.find? id = some handle ↔ index.find? id = some handle ∨ name = id ∧ handle = new := by
  unfold IdIndex.register at registered
  split at registered
  · contradiction
  · rename_i free
    obtain rfl := Except.ok.inj registered
    have unknown : index.entries.lookup name = none := by
      simpa only [IdIndex.contains, IdIndex.find?, Bool.not_eq_true, Option.isSome_eq_false_iff,
        Option.isNone_iff_eq_none] using free
    simp only [IdIndex.find?, List.lookup_append]
    by_cases same : id = name
    · subst same
      simp [unknown, eq_comm]
    · have other : (id == name) = false := by simpa using same
      simp [List.lookup_cons, other, Ne.symm same]

theorem Fresh.push (fresh : layout.Fresh) {element : Element K} (new : element.parent? = none) :
    (layout.push element).1.Fresh := by
  have whole : ∀ other ∈ layout.elements ++ [element], other.parent? = none := by
    intro other member
    rcases List.mem_append.mp member with old | added
    · exact fresh.whole other old
    · rw [List.mem_singleton.mp added]
      exact new
  have longer : layout.elements.length < (layout.elements ++ [element]).length := by simp
  unfold Layout.push
  simp only
  split
  · exact ⟨fun id handle found => (fresh.named id handle found).trans longer, whole⟩
  · split
    · exact fresh
    · rename_i registered
      refine ⟨?_, whole⟩
      intro id handle found
      rcases (find?_register_iff registered).mp found with before | ⟨_, last⟩
      · exact (fresh.named id handle before).trans longer
      · exact last ▸ longer

theorem Fresh.modifyTip (fresh : layout.Fresh) (attachment : Attachment K)
    (change : Endpoint K → Endpoint K) : (layout.modifyTip attachment change).Fresh where
  named := by
    intro id handle found
    rw [Layout.modifyTip, List.length_modify]
    exact fresh.named id handle found
  whole := by
    intro element member
    obtain ⟨place, found⟩ := List.mem_iff_getElem?.mp member
    simp only [Layout.modifyTip, List.getElem?_modify, Option.map_eq_map, Option.map_eq_some_iff]
      at found
    obtain ⟨before, known, rfl⟩ := found
    have kept := fresh.whole before (List.mem_of_getElem? known)
    split
    · rw [Element.parent?_modifyTip, kept]
    · exact kept

theorem Fresh.markRight (fresh : layout.Fresh) (attachment : Option (Attachment K)) :
    (layout.markRight attachment).Fresh := by
  cases attachment with
  | none => exact fresh
  | some attachment => exact fresh.modifyTip attachment Endpoint.markRight

theorem Fresh.markLeft (fresh : layout.Fresh) (attachment : Option (Attachment K)) :
    (layout.markLeft attachment).Fresh := by
  cases attachment with
  | none => exact fresh
  | some attachment => exact fresh.modifyTip attachment Endpoint.markLeft

variable [Scalar K]

theorem prepareLine_parent {spec : LineSpec K} {line : Line K}
    (prepared : layout.prepareLine spec = .ok line) : line.parent = none := by
  obtain ⟨_, _, _, _, _, _, _, _, rfl⟩ := prepareLine_ok prepared
  rfl

theorem Fresh.addLine (fresh : layout.Fresh) (spec : LineSpec K) :
    (layout.addLine spec).1.Fresh := by
  unfold Layout.addLine
  cases prepared : layout.prepareLine spec with
  | error failure => exact fresh
  | ok line =>
      have parent : (Element.line line).parent? = none := prepareLine_parent prepared
      exact ((fresh.markRight _).markLeft _).push parent

theorem Fresh.addConnector (fresh : layout.Fresh) (spec : ConnectorSpec K) :
    (layout.addConnector spec).1.Fresh := by
  unfold Layout.addConnector
  cases layout.prepareConnector spec with
  | error failure => exact fresh
  | ok connector =>
      have parent : (Element.connector connector).parent? = none := rfl
      exact ((fresh.markRight _).markRight _).push parent

theorem Fresh.add (fresh : layout.Fresh) (spec : ElementSpec K) : (layout.add spec).1.Fresh := by
  cases spec with
  | line spec => exact fresh.addLine spec
  | connector spec => exact fresh.addConnector spec

theorem Fresh.center (fresh : layout.Fresh) : layout.center.Fresh where
  named := by
    intro id handle found
    rw [Layout.center, List.length_map]
    exact fresh.named id handle found
  whole := by
    intro element member
    obtain ⟨before, known, rfl⟩ := List.mem_map.mp member
    rw [Element.shift, Element.parent?_modifyTip, Element.parent?_modifyTip]
    exact fresh.whole before known

end Fresh

def Fragment (layout : Layout K) (handle : Nat) (fragment : Line K) : Prop :=
  ∃ place, layout.line? place = some fragment ∧ fragment.parent = some handle

def IsCut (layout : Layout K) (handle : Nat) : Prop := ∃ fragment, layout.Fragment handle fragment

/-- What is left of an element where no cut, or any number of them, were made. -/
structure Remnant (layout : Layout K) (handle : Nat) (declared left : Element K) : Prop where
  start : left.tip .start = declared.tip .start
  uncut : ¬ layout.IsCut handle → left.tip .finish = declared.tip .finish
  cut : layout.IsCut handle → ∃ fragment, layout.Fragment handle fragment ∧
    left.tip .finish = fragment.start ∧ fragment.start.y = (declared.tip .finish).y

theorem Remnant.finish_y {layout : Layout K} {handle : Nat} {declared left : Element K}
    (remnant : layout.Remnant handle declared left) :
    (left.tip .finish).y = (declared.tip .finish).y := by
  by_cases isCut : layout.IsCut handle
  · obtain ⟨fragment, _, meets, same⟩ := remnant.cut isCut
    rw [meets, same]
  · rw [remnant.uncut isCut]

theorem Remnant.transfer {before after : Layout K} {handle : Nat} {declared left next : Element K}
    (remnant : before.Remnant handle declared left) (tips : ∀ tip, next.tip tip = left.tip tip)
    (known : ∀ fragment, after.Fragment handle fragment → before.IsCut handle)
    (kept : ∀ fragment, before.Fragment handle fragment →
      ∃ same, after.Fragment handle same ∧ same.start = fragment.start) :
    after.Remnant handle declared next where
  start := (tips _).trans remnant.start
  uncut uncut := by
    rw [tips]
    refine remnant.uncut ?_
    rintro ⟨fragment, isFragment⟩
    obtain ⟨same, stillThere, _⟩ := kept fragment isFragment
    exact uncut ⟨same, stillThere⟩
  cut := by
    rintro ⟨last, isLast⟩
    obtain ⟨fragment, isFragment, meets, height⟩ := remnant.cut (known last isLast)
    obtain ⟨same, stillThere, start⟩ := kept fragment isFragment
    exact ⟨same, stillThere, by rw [tips, meets, start], by rw [start, height]⟩

/-- A layout on the way to being settled, and the one it was at first. -/
structure Reduces (declared state : Layout K) : Prop where
  index : state.index = declared.index
  elements : ∀ handle element, declared.elements[handle]? = some element →
    ∃ left, state.elements[handle]? = some left ∧ state.Remnant handle element left

section Reduces

variable {declared state : Layout K} {handle : Nat} {line : Line K}

theorem Fresh.reduces (fresh : declared.Fresh) : Reduces declared declared where
  index := rfl
  elements := by
    intro handle element found
    have uncut : ¬ declared.IsCut handle := by
      rintro ⟨fragment, place, listed, parent⟩
      have whole := fresh.whole _ (List.mem_of_getElem? (line?_eq_some_iff.mp listed))
      simp [Element.parent?, parent] at whole
    exact ⟨element, found, rfl, fun _ => rfl, fun isCut => absurd isCut uncut⟩

section Replace

variable {new : Line K}

theorem Fragment.of_setLine (found : state.line? handle = some line)
    (parent : new.parent = line.parent) {other : Nat} {fragment : Line K}
    (isFragment : (state.setLine handle new).Fragment other fragment) : state.IsCut other := by
  obtain ⟨place, listed, known⟩ := isFragment
  rw [line?_setLine new (line?_bound found)] at listed
  split at listed
  · obtain rfl := Option.some.inj listed
    exact ⟨line, handle, found, parent.symm.trans known⟩
  · exact ⟨fragment, place, listed, known⟩

theorem Fragment.setLine (found : state.line? handle = some line) (start : new.start = line.start)
    (parent : new.parent = line.parent) {other : Nat} {fragment : Line K}
    (isFragment : state.Fragment other fragment) :
    ∃ kept, (state.setLine handle new).Fragment other kept ∧ kept.start = fragment.start := by
  obtain ⟨place, listed, known⟩ := isFragment
  by_cases here : place = handle
  · subst here
    obtain rfl := Option.some.inj (found.symm.trans listed)
    refine ⟨new, ⟨place, ?_, parent.trans known⟩, start⟩
    rw [line?_setLine new (line?_bound found), if_pos rfl]
  · exact ⟨fragment, ⟨place, (line?_setLine_of_ne new here).trans listed, known⟩, rfl⟩

end Replace

theorem Reduces.soften (reduces : Reduces declared state) (found : state.line? handle = some line)
    (clearance : Clearance K) :
    Reduces declared (state.setLine handle { line with clearance }) where
  index := reduces.index
  elements := by
    intro other element declaredThere
    obtain ⟨left, placed, remnant⟩ := reduces.elements other element declaredThere
    have same : ({ line with clearance } : Line K).parent = line.parent := rfl
    have start : ({ line with clearance } : Line K).start = line.start := rfl
    have tips : ∃ next, (state.setLine handle { line with clearance }).elements[other]? =
        some next ∧ ∀ tip, next.tip tip = left.tip tip := by
      rw [elements_setLine _ (line?_bound found)]
      split
      · rename_i here
        rw [here, line?_eq_some_iff.mp found] at placed
        obtain rfl := Option.some.inj placed
        exact ⟨_, rfl, fun tip => by cases tip <;> rfl⟩
      · exact ⟨left, placed, fun _ => rfl⟩
    obtain ⟨next, nextPlaced, nextTips⟩ := tips
    exact ⟨next, nextPlaced, remnant.transfer nextTips
      (fun _ isFragment => isFragment.of_setLine found same)
      (fun _ isFragment => isFragment.setLine found start same)⟩

variable [Scalar K]

theorem Fragment.of_afterCut (found : state.line? handle = some line) (x : K) {other : Nat}
    {fragment : Line K}
    (isFragment : (state.afterCut handle (line.leftPart x) (line.rightPart x handle)).Fragment other
      fragment) : other = handle ∨ state.IsCut other := by
  obtain ⟨place, listed, known⟩ := isFragment
  rw [line?_afterCut _ _ (line?_bound found)] at listed
  split at listed
  · obtain rfl := Option.some.inj listed
    exact Or.inl (Option.some.inj known).symm
  · split at listed
    · obtain rfl := Option.some.inj listed
      exact Or.inr ⟨line, handle, found, known⟩
    · exact Or.inr ⟨fragment, place, listed, known⟩

theorem Fragment.afterCut (found : state.line? handle = some line) (x : K) {other : Nat}
    {fragment : Line K} (isFragment : state.Fragment other fragment) :
    ∃ kept, (state.afterCut handle (line.leftPart x) (line.rightPart x handle)).Fragment other
      kept ∧ kept.start = fragment.start := by
  obtain ⟨place, listed, known⟩ := isFragment
  have earlier := (line?_bound listed).ne
  by_cases here : place = handle
  · subst here
    obtain rfl := Option.some.inj (found.symm.trans listed)
    refine ⟨line.leftPart x, ⟨place, ?_, known⟩, rfl⟩
    rw [line?_afterCut _ _ (line?_bound found), if_neg earlier, if_pos rfl]
  · refine ⟨fragment, ⟨place, ?_, known⟩, rfl⟩
    rw [line?_afterCut _ _ (line?_bound found), if_neg earlier, if_neg here, listed]

theorem Reduces.afterCut (reduces : Reduces declared state)
    (found : state.line? handle = some line) (x : K) :
    Reduces declared (state.afterCut handle (line.leftPart x) (line.rightPart x handle)) where
  index := reduces.index
  elements := by
    intro other element declaredThere
    obtain ⟨left, placed, remnant⟩ := reduces.elements other element declaredThere
    have bound := line?_bound found
    have earlier := (List.getElem?_eq_some_iff.mp placed).1.ne
    rw [elements_afterCut _ _ bound, if_neg earlier]
    by_cases here : other = handle
    · subst here
      rw [line?_eq_some_iff.mp found] at placed
      obtain rfl := Option.some.inj placed
      have last : (state.afterCut other (line.leftPart x) (line.rightPart x other)).Fragment other
          (line.rightPart x other) := by
        refine ⟨state.elements.length, ?_, rfl⟩
        rw [line?_afterCut _ _ bound, if_pos rfl]
      refine ⟨.line (line.leftPart x), if_pos rfl, remnant.start, ?_, ?_⟩
      · exact fun uncut => absurd ⟨_, last⟩ uncut
      · exact fun _ => ⟨_, last, rfl, remnant.finish_y⟩
    · rw [if_neg here]
      exact ⟨left, placed, remnant.transfer (fun _ => rfl)
        (fun _ isFragment => (isFragment.of_afterCut found x).resolve_left here)
        (fun _ isFragment => isFragment.afterCut found x)⟩

end Reduces

section Settle

variable [Scalar K]

theorem scan_cut {layout next : Layout K} (scanned : layout.scan = .cut next) :
    ∃ handle line x, layout.line? handle = some line ∧
      next = layout.afterCut handle (line.leftPart x) (line.rightPart x handle) := by
  unfold scan at scanned
  split at scanned
  · contradiction
  · contradiction
  · rename_i handle x asked
    split at scanned
    · contradiction
    · contradiction
    · rename_i other done
      obtain rfl := Scan.cut.inj scanned
      cases found : layout.line? handle with
      | none => simp [cutLine, found] at done
      | some line => exact ⟨handle, line, x, found, cutLine_some found done⟩
  · contradiction

theorem scan_split {layout next : Layout K} (scanned : layout.scan = .split next) :
    ∃ upper lower distance, layout.nextChange = .ok (some (.split upper lower distance)) ∧
      next = layout.splitPadding upper lower distance := by
  unfold scan at scanned
  split at scanned
  · contradiction
  · contradiction
  · split at scanned <;> contradiction
  · rename_i upper lower distance asked
    exact ⟨upper, lower, distance, asked, (Scan.split.inj scanned).symm⟩

theorem settleWithin_keeps {motive : Layout K → Prop}
    (cut : ∀ {state next : Layout K}, motive state → state.scan = .cut next → motive next)
    (split : ∀ {state next : Layout K}, motive state → state.scan = .split next → motive next)
    (scans cuts : Nat) {layout : Layout K} (initially : motive layout) :
    motive (settleWithin scans cuts layout).1 := by
  induction scans generalizing cuts layout with
  | zero => exact initially
  | succ scans ih =>
      rw [settleWithin]
      cases scanned : layout.scan with
      | settled => exact initially
      | failed failure => exact initially
      | cut next => exact ih (cuts + 1) (cut initially scanned)
      | split next => exact ih cuts (split initially scanned)

theorem settleWithin_preserves {motive : Layout K → Prop}
    (soften : ∀ {state : Layout K} {handle : Nat} {line : Line K}, motive state →
      state.line? handle = some line → ∀ clearance,
        motive (state.setLine handle { line with clearance }))
    (cut : ∀ {state : Layout K} {handle : Nat} {line : Line K}, motive state →
      state.line? handle = some line → ∀ x,
        motive (state.afterCut handle (line.leftPart x) (line.rightPart x handle)))
    (scans cuts : Nat) {layout : Layout K} (initially : motive layout) :
    motive (settleWithin scans cuts layout).1 := by
  have split : ∀ (upper lower : Nat) (distance : K) {state : Layout K}, motive state →
      motive (state.splitPadding upper lower distance) := by
    intro upper lower distance state before
    unfold Layout.splitPadding
    split
    · rename_i up low upperFound lowerFound
      have softened := soften before upperFound
        { up.clearance with softDown := (shares up.clearance low.clearance distance).1 }
      simp only
      split
      · rename_i now nowFound
        exact soften softened nowFound _
      · exact softened
    · exact before
  refine settleWithin_keeps ?_ ?_ scans cuts initially
  · intro state next before scanned
    obtain ⟨handle, line, x, found, rfl⟩ := scan_cut scanned
    exact cut before found x
  · intro state next before scanned
    obtain ⟨upper, lower, distance, _, rfl⟩ := scan_split scanned
    exact split upper lower distance before

theorem Fresh.settle {declared : Layout K} (fresh : declared.Fresh) :
    Reduces declared declared.settle.1 :=
  settleWithin_preserves Reduces.soften Reduces.afterCut _ _ fresh.reduces

end Settle

end Layout

section Anchors

variable [Scalar K]

/-- Where a point stands that is given relative to a tip of an element: it goes by the tip that was
declared, unless that is the end of a line that was cut. Then it goes by the place where the rest
of the line now meets a part of it. -/
structure Anchored (settled : Layout K) (handle : Nat) (element : Element K)
    (spec : PositionSpec K) (point : Point K) : Prop where
  kept : spec.tip = .start ∨ ¬ settled.IsCut handle →
    point = (element.tip spec.tip).position.add ⟨spec.x, spec.y⟩
  moved : spec.tip = .finish → settled.IsCut handle → ∃ left fragment,
    settled.elements[handle]? = some left ∧ settled.Fragment handle fragment ∧
    left.tip .finish = fragment.start ∧ fragment.start.y = (element.tip .finish).y ∧
    point = fragment.start.position.add ⟨spec.x, spec.y⟩

def RefersTo (declared settled : Layout K) (spec : PositionSpec K) (point : Point K) : Prop :=
  ∀ id, spec.reference = some id → ∃ handle element,
    declared.resolver.lookup id = .ok (handle, element) ∧
    Anchored settled handle element spec point

def KeepsTo (declared : Layout K) (spec : PositionSpec K) (point : Point K) : Prop :=
  ∀ id, spec.reference = some id → ∃ handle element,
    declared.resolver.lookup id = .ok (handle, element) ∧
    point = (element.tip spec.tip).position.add ⟨spec.x, spec.y⟩

theorem Layout.Reduces.refersTo {declared state : Layout K}
    (reduces : Layout.Reduces declared state) (fresh : declared.Fresh) {spec : PositionSpec K}
    {point : Point K} {width : K}
    (placed : state.resolver.position spec = .ok (point, width)) :
    RefersTo declared state spec point := by
  intro id refers
  simp only [Resolver.position, refers, bind_eq_ok] at placed
  obtain ⟨⟨handle, left⟩, looked, result⟩ := placed
  obtain ⟨named, listed⟩ := Resolver.lookup_ok.mp looked
  have named : declared.index.find? id = some handle := reduces.index ▸ named
  obtain ⟨element, there⟩ : ∃ element, declared.elements[handle]? = some element :=
    ⟨_, List.getElem?_eq_getElem (fresh.named id handle named)⟩
  obtain ⟨rest, restListed, remnant⟩ := reduces.elements handle element there
  obtain rfl : rest = left := Option.some.inj (restListed.symm.trans listed)
  obtain rfl : (rest.tip spec.tip).position.add ⟨spec.x, spec.y⟩ = point :=
    congrArg Prod.fst (Except.ok.inj result)
  refine ⟨handle, element, Resolver.lookup_ok.mpr ⟨named, there⟩, ?_, ?_⟩
  · intro still
    have same : rest.tip spec.tip = element.tip spec.tip := by
      cases tip : spec.tip with
      | start => exact remnant.start
      | finish => exact remnant.uncut (still.resolve_left (by simp [tip]))
    rw [same]
  · intro tip isCut
    obtain ⟨fragment, isFragment, meets, height⟩ := remnant.cut isCut
    exact ⟨rest, fragment, listed, isFragment, meets, height, by rw [tip, meets]⟩

end Anchors

namespace Scene

theorem placeAll_ok {α β : Type} {place : α → Diagnostics → Except (Failure K) (β × Diagnostics)}
    {items : List α} {placed : List β} {before after : Diagnostics}
    (done : placeAll place items before = .ok (placed, after)) :
    List.Forall₂ (fun item result => ∃ before after, place item before = .ok (result, after))
      items placed := by
  induction items generalizing before placed with
  | nil =>
      obtain ⟨rfl, rfl⟩ := Prod.mk.inj (Except.ok.inj done)
      exact .nil
  | cons item items ih =>
      simp only [placeAll, bind_eq_ok] at done
      obtain ⟨⟨first, middle⟩, here, ⟨others, last⟩, rest, result⟩ := done
      obtain ⟨rfl, rfl⟩ := Prod.mk.inj (Except.ok.inj result)
      exact .cons ⟨_, _, here⟩ (ih rest)

variable [Numeral K]

theorem addAll_fresh {layout result : Layout K} {specs : List (ElementSpec K)}
    (fresh : layout.Fresh) (done : layout.addAll specs = .ok result) : result.Fresh := by
  induction specs generalizing layout with
  | nil =>
      obtain rfl := Except.ok.inj done
      exact fresh
  | cons spec specs ih =>
      have next := fresh.add spec
      rw [Layout.addAll] at done
      split at done
      · rename_i added handle same
        rw [same] at next
        exact ih next done
      · contradiction

theorem place_fresh {geometry : GeometrySpec K} {placed : Layout K}
    (done : place geometry = .ok placed) : placed.Fresh := by
  simp only [place, bind_eq_ok] at done
  obtain ⟨layout, added, result⟩ := done
  obtain rfl := Except.ok.inj result
  exact (addAll_fresh (Layout.fresh_empty _) added).center

theorem placeSource_ok {layout : Layout K} {spec : SourceSpec K} {source : Source K}
    {before after : Diagnostics} (done : placeSource layout spec before = .ok (source, after)) :
    ∃ width, layout.resolver.position spec.position = .ok (source.position, width) := by
  simp only [placeSource, bind_eq_ok] at done
  obtain ⟨⟨position, width⟩, found, result⟩ := done
  obtain ⟨rfl, _⟩ := Prod.mk.inj (Except.ok.inj result)
  exact ⟨width, found⟩

theorem placeFlux_ok {layout : Layout K} {spec : FluxSpec K} {flux : FluxPoint K}
    {before after : Diagnostics} (done : placeFlux layout spec before = .ok (flux, after)) :
    ∃ width, layout.resolver.position spec.position = .ok (flux.position, width) := by
  simp only [placeFlux, bind_eq_ok] at done
  obtain ⟨⟨position, width⟩, found, result⟩ := done
  obtain ⟨rfl, _⟩ := Prod.mk.inj (Except.ok.inj result)
  exact ⟨width, found⟩

theorem placeTransient_ok {layout : Layout K} {interval : K} {spec : TransientSpec K}
    {transient : Transient K} {before after : Diagnostics}
    (done : placeTransient layout interval spec before = .ok (transient, after)) :
    ∀ position, spec.position = some position → ∃ point width,
      transient.position = some point ∧
      layout.resolver.position position = .ok (point, width) := by
  intro position given
  simp only [placeTransient, given, bind_eq_ok] at done
  obtain ⟨⟨point, width⟩, found, result⟩ := done
  obtain ⟨rfl, _⟩ := Prod.mk.inj (Except.ok.inj result)
  exact ⟨point, width, rfl, found⟩

theorem runControl_decay {settings : Settings K} {time : TimeSpec K} {fluxes : List (FluxPoint K)}
    {point : Point K} (decays : (runControl settings time fluxes).1 = .decay point) :
    point = decayPoint fluxes := by
  unfold runControl at decays
  split at decays
  · contradiction
  · split at decays
    · exact (RunControl.decay.inj decays).symm
    · contradiction

/-- The snapshot that a description may have is the first of the transients, before those observed.
It is taken everywhere, has no comment, and gives its own interval or takes the usual one. -/
structure SnapshotFirst (snapshot : Option (SnapshotSpec K)) (interval : K)
    (transients observed : List (Transient K)) : Prop where
  without : snapshot = none → transients = observed
  first : ∀ given, snapshot = some given → ∃ entry, transients = entry :: observed ∧
    entry.component = given.component ∧ entry.field = given.field ∧
    entry.interval = given.interval.getD interval ∧ entry.position = none ∧ entry.comment = none

omit [Numeral K] in
theorem snapshotFirst_snapshots (snapshot : Option (SnapshotSpec K)) (interval : K)
    (observed : List (Transient K)) :
    SnapshotFirst snapshot interval (snapshots interval snapshot ++ observed) observed where
  without nothing := by
    rw [nothing]
    rfl
  first given known := by
    rw [known]
    exact ⟨_, rfl, rfl, rfl, rfl, rfl, rfl⟩

/-- Where a scene has what its description places by reference. The declared layout is centered and
not yet settled. -/
structure Refers (description : Description K) (settings : Settings K) (declared : Layout K)
    (scene : Scene K) : Prop where
  placed : place description.geometry = .ok declared
  settled : declared.settle = (scene.layout, .ok scene.cuts)
  sources : List.Forall₂
    (fun spec source => RefersTo declared scene.layout spec.position source.position)
    description.sources scene.sources
  fluxes : List.Forall₂
    (fun spec flux => RefersTo declared scene.layout spec.position flux.position)
    description.collectors.spectral scene.fluxes
  transients : ∃ observed,
    SnapshotFirst description.controls.snapshot settings.snapshotInterval scene.transients
      observed ∧
    List.Forall₂ (fun spec transient => ∀ position, spec.position = some position →
      ∃ point, transient.position = some point ∧ RefersTo declared scene.layout position point)
      description.collectors.temporal observed
  decay : ∀ point, scene.run = .decay point → ∀ spec others,
    description.collectors.spectral = spec :: others →
    RefersTo declared scene.layout spec.position point

/-- Every source, flux point and local transient of a scene, and the point where its fields decay,
stand where the elements they refer to were declared, but for ends of lines that were cut. -/
theorem build_refers {description : Description K} {settings : Settings K} {scene : Scene K}
    (built : build description settings = .ok scene) :
    ∃ declared, scene.Refers description settings declared := by
  simp only [build, bind_eq_ok] at built
  obtain ⟨_, _, declared, placed, cuts, settled, ⟨sources, _⟩, sourcesPlaced, ⟨fluxes, _⟩,
    fluxesPlaced, ⟨transients, _⟩, transientsPlaced, result⟩ := built
  obtain rfl := Except.ok.inj result
  have fresh := place_fresh placed
  have refers : ∀ {spec : PositionSpec K} {point : Point K} {width : K},
      declared.settle.1.resolver.position spec = .ok (point, width) →
        RefersTo declared declared.settle.1 spec point := fresh.settle.refersTo fresh
  have fluxesRefer : List.Forall₂
      (fun spec flux => RefersTo declared declared.settle.1 spec.position flux.position)
      description.collectors.spectral fluxes := by
    refine (placeAll_ok fluxesPlaced).imp ?_
    rintro spec flux ⟨_, _, done⟩
    obtain ⟨width, found⟩ := placeFlux_ok done
    exact refers found
  refine ⟨declared, placed, Prod.ext rfl settled, ?_, fluxesRefer,
    ⟨transients, snapshotFirst_snapshots .., ?_⟩, ?_⟩
  · refine (placeAll_ok sourcesPlaced).imp ?_
    rintro spec source ⟨_, _, done⟩
    obtain ⟨width, found⟩ := placeSource_ok done
    exact refers found
  · refine (placeAll_ok transientsPlaced).imp ?_
    rintro spec transient ⟨_, _, done⟩ position given
    obtain ⟨point, width, stands, found⟩ := placeTransient_ok done position given
    exact ⟨point, stands, refers found⟩
  · intro point decays spec others first
    rw [runControl_decay decays]
    rw [first] at fluxesRefer
    cases fluxesRefer with
    | cons here _ => exact here

def endOfA : PositionSpec ℚ := ⟨0, 0, 1, some "a", .finish⟩

def overlappedEnd : Description ℚ where
  version := "3.0"
  comment := none
  output := none
  geometry :=
    { elements := [
        .line { LineSpec.between sampleGuide ⟨0, 0⟩ ⟨30, 0⟩ with id := some "a" },
        .line (.between sampleGuide ⟨10, 7⟩ ⟨50, 7⟩)]
      overshot := 2
      thickness := none }
  sources := [⟨none, endOfA, ⟨"Ez", .pulse, 3 / 20, 1 / 10⟩⟩]
  collectors :=
    { spectral := [⟨none, endOfA, ⟨3 / 20, 1 / 10, 100⟩⟩]
      temporal := [⟨none, "z", "e", none, some endOfA⟩] }
  controls := ⟨10, ⟨.decay, 200, false⟩, false, none⟩

theorem overlappedEnd_refers :
    ∃ scene, build overlappedEnd .default = .ok scene ∧ scene.cuts = 2 ∧
      ∃ declared, scene.Refers overlappedEnd .default declared := by
  have cuts : (build overlappedEnd .default).toOption.map Scene.cuts = some 2 := by decide +kernel
  cases built : build overlappedEnd .default with
  | error failure =>
      rw [built] at cuts
      contradiction
  | ok scene =>
      rw [built] at cuts
      exact ⟨scene, rfl, Option.some.inj cuts, build_refers built⟩

theorem overlappedEnd_strays :
    ∃ scene declared, build overlappedEnd .default = .ok scene ∧
      place overlappedEnd.geometry = .ok declared ∧
      ¬ List.Forall₂ (fun spec source => KeepsTo declared spec.position source.position)
        overlappedEnd.sources scene.sources := by
  have stands : (build overlappedEnd .default).toOption.map
      (fun scene => scene.sources.map fun source => source.position.x) = some [-15] := by
    decide +kernel
  have ended : ((place overlappedEnd.geometry).toOption.bind fun declared =>
      (declared.resolver.lookup "a").toOption).map
        (fun found => (found.2.tip .finish).position.x) = some 5 := by
    decide +kernel
  cases built : build overlappedEnd .default with
  | error failure =>
      rw [built] at stands
      contradiction
  | ok scene =>
      cases placed : place overlappedEnd.geometry with
      | error failure =>
          rw [placed] at ended
          contradiction
      | ok declared =>
          refine ⟨scene, declared, rfl, rfl, ?_⟩
          intro all
          obtain ⟨source, others, keeps, _, same⟩ := List.forall₂_cons_left_iff.mp all
          obtain ⟨handle, element, found, stays⟩ := keeps "a" rfl
          have here : source.position.x = -15 ∧ others = [] := by
            rw [built] at stands
            simpa [Except.toOption, same] using stands
          have there : (element.tip .finish).position.x = 5 := by
            rw [placed] at ended
            simpa [Except.toOption, found] using ended
          have strayed := congrArg Point.x stays
          simp only [Point.add, endOfA, here.1, there] at strayed
          norm_num at strayed

end Scene

end Waveguide
