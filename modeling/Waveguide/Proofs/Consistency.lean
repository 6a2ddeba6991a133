import Mathlib
import Waveguide.Proofs.Anchors
import Waveguide.Proofs.Points
import Waveguide.Proofs.Revision
import Waveguide.Proofs.Termination

/-!
The layouts that can be reached by adding elements, centering and settling, in any order and whether
or not the operations succeed. They all stay consistent: the index holds exactly the names that are
given, attachments and parts of lines lead back to earlier elements, and lines keep their measures.
-/

namespace Waveguide

section Places

structure Attachment.LeadsBack (layout : Layout ℚ) (place : Nat) (attachment : Attachment ℚ) :
    Prop where
  earlier : attachment.target < place
  target : ∃ element, layout.elements[attachment.target]? = some element ∧
    attachment.kind = element.kind ∧ attachment.width = element.width

structure Line.CutFrom (layout : Layout ℚ) (place : Nat) (line : Line ℚ) (parent : Nat) :
    Prop where
  id : line.id = none
  comment : line.comment = none
  earlier : parent < place
  whole : ∃ whole, layout.line? parent = some whole ∧ whole.property = line.property

structure Element.WellPlaced (layout : Layout ℚ) (place : Nat) (element : Element ℚ) : Prop where
  elevation : element.elevation = layout.thickness
  attached : ∀ tip attachment, (element.tip tip).attachment = some attachment →
    attachment.LeadsBack layout place
  connects : ∀ connector, element = .connector connector → ∀ tip, ∃ attachment line,
    (element.tip tip).attachment = some attachment ∧ layout.line? attachment.target = some line
  fragment : ∀ line parent, element = .line line → line.parent = some parent →
    line.CutFrom layout place parent
  proper : ∀ line, element = .line line → line.Proper

end Places

namespace Layout

structure Consistent (layout : Layout ℚ) : Prop where
  named : ∀ id handle, layout.find? id = some handle ↔
    ∃ element, layout.elements[handle]? = some element ∧ element.id = some id
  placed : ∀ (place : Nat) (element : Element ℚ), layout.elements[place]? = some element →
    element.WellPlaced layout place

namespace Carries

variable {layout other : Layout ℚ}

theorem leadsBack (carries : layout.Carries other) {place : Nat} {attachment : Attachment ℚ}
    (leads : attachment.LeadsBack layout place) : attachment.LeadsBack other place where
  earlier := leads.earlier
  target := by
    obtain ⟨element, found, kind, width⟩ := leads.target
    obtain ⟨new, placed, revision⟩ := carries.kept _ element found
    exact ⟨new, placed, kind.trans revision.kind.symm, width.trans revision.width.symm⟩

theorem wellPlaced (carries : layout.Carries other) {place : Nat} {element new : Element ℚ}
    (known : element.WellPlaced layout place) (revision : element.Revision new) :
    new.WellPlaced other place where
  elevation := by rw [revision.elevation, known.elevation, carries.thickness]
  attached tip attachment attached :=
    carries.leadsBack (known.attached tip attachment (revision.attachment attached))
  connects := by
    rintro connector rfl tip
    cases revision with
    | @connector before _ revised =>
        have same : ((Element.connector connector).tip tip).attachment =
            ((Element.connector before).tip tip).attachment := by
          cases tip with
          | start => exact revised.start
          | finish => exact revised.finish
        obtain ⟨attachment, line, attached, found⟩ := known.connects before rfl tip
        obtain ⟨now, foundNow, _⟩ := carries.line? found
        exact ⟨attachment, now, same.trans attached, foundNow⟩
  fragment := by
    rintro line parent rfl cutFrom
    cases revision with
    | @line before _ revised =>
        have was := known.fragment before parent rfl (revised.parent.symm.trans cutFrom)
        obtain ⟨whole, found, property⟩ := was.whole
        obtain ⟨now, foundNow, wholeRevised⟩ := carries.line? found
        exact {
          id := revised.id.trans was.id
          comment := revised.comment.trans was.comment
          earlier := was.earlier
          whole := ⟨now, foundNow, by rw [wholeRevised.property, property, revised.property]⟩ }
  proper := by
    rintro line rfl
    cases revision with
    | @line before _ revised => exact revised.proper (known.proper before rfl)

end Carries

section Append

variable {element : Element ℚ}

theorem getElem?_concat_iff {elements : List (Element ℚ)} {place : Nat} {found : Element ℚ} :
    (elements ++ [element])[place]? = some found ↔
      elements[place]? = some found ∨ place = elements.length ∧ element = found := by
  rcases Nat.lt_trichotomy place elements.length with before | last | after
  · simp [List.getElem?_append_left before, before.ne]
  · subst last
    simp
  · have outside : (elements ++ [element]).length ≤ place := by simpa using after
    simp [List.getElem?_eq_none outside, List.getElem?_eq_none after.le, after.ne']

theorem carries_append (layout : Layout ℚ) (element : Element ℚ) (index : IdIndex) :
    layout.Carries { layout with elements := layout.elements ++ [element], index } where
  thickness := rfl
  kept _ other found := ⟨other, getElem?_concat_iff.mpr (Or.inl found), .refl other⟩

end Append

namespace Consistent

variable {layout : Layout ℚ}

theorem revise (consistent : layout.Consistent) {other : Layout ℚ}
    (revision : layout.Revision other) : other.Consistent where
  named id handle := by
    rw [find?, revision.index, ← find?, consistent.named]
    constructor
    · rintro ⟨element, found, named⟩
      obtain ⟨new, placed, revised⟩ := revision.kept handle element found
      exact ⟨new, placed, revised.id.trans named⟩
    · rintro ⟨new, placed, named⟩
      obtain ⟨element, found, revised⟩ := revision.known handle new placed
      exact ⟨element, found, revised.id.symm.trans named⟩
  placed place new found := by
    obtain ⟨element, there, revised⟩ := revision.known place new found
    exact revision.toCarries.wellPlaced (consistent.placed place element there) revised

theorem line (consistent : layout.Consistent) {handle : Nat} {line : Line ℚ}
    (found : layout.line? handle = some line) : line.Proper :=
  (consistent.placed handle _ (line?_eq_some_iff.mp found)).proper line rfl

theorem allSound (consistent : layout.Consistent) : layout.All Line.Sound :=
  fun _ _ found => (consistent.line found).toSound

theorem distinct (consistent : layout.Consistent) {a b : Nat} {first second : Element ℚ}
    {id : String} (firstFound : layout.elements[a]? = some first)
    (secondFound : layout.elements[b]? = some second) (firstNamed : first.id = some id)
    (secondNamed : second.id = some id) : a = b := by
  have one := (consistent.named id a).mpr ⟨first, firstFound, firstNamed⟩
  have other := (consistent.named id b).mpr ⟨second, secondFound, secondNamed⟩
  exact Option.some.inj (one.symm.trans other)

theorem empty (thickness : Option ℚ) : (Layout.empty thickness).Consistent where
  named := by
    intro id handle
    simp [Layout.empty, Layout.find?, IdIndex.empty, IdIndex.find?]
  placed := by
    intro place element impossible
    simp [Layout.empty] at impossible

variable {element : Element ℚ} {index : IdIndex}

theorem append (consistent : layout.Consistent)
    (placed : element.WellPlaced layout layout.elements.length)
    (names : ∀ id handle, index.find? id = some handle ↔
      layout.find? id = some handle ∨ element.id = some id ∧ handle = layout.elements.length) :
    Layout.Consistent { layout with elements := layout.elements ++ [element], index } where
  named id handle := by
    change index.find? id = some handle ↔ _
    simp only [names, consistent.named, getElem?_concat_iff]
    constructor
    · rintro (⟨other, found, named⟩ | ⟨named, last⟩)
      · exact ⟨other, Or.inl found, named⟩
      · exact ⟨element, Or.inr ⟨last, rfl⟩, named⟩
    · rintro ⟨other, found | ⟨last, rfl⟩, named⟩
      · exact Or.inl ⟨other, found, named⟩
      · exact Or.inr ⟨named, last⟩
  placed place other found := by
    have carries := layout.carries_append element index
    rcases getElem?_concat_iff.mp found with old | ⟨rfl, rfl⟩
    · exact carries.wellPlaced (consistent.placed place other old) (.refl other)
    · exact carries.wellPlaced placed (.refl _)

theorem push (consistent : layout.Consistent)
    (placed : element.WellPlaced layout layout.elements.length) :
    (layout.push element).1.Consistent := by
  unfold Layout.push
  simp only
  split
  · rename_i unnamed
    exact consistent.append placed fun id handle => by simp [unnamed, find?]
  · rename_i id named
    split
    · exact consistent
    · rename_i registered
      refine consistent.append placed fun other handle => ?_
      rw [find?_register_iff registered, named, Option.some.injEq]
      rfl

end Consistent

section Additions

variable {layout : Layout ℚ}

theorem leadsBack_of_found {attachment : Attachment ℚ}
    (found : ∃ element, layout.elements[attachment.target]? = some element ∧
      attachment.kind = element.kind ∧ attachment.width = element.width) :
    attachment.LeadsBack layout layout.elements.length := by
  obtain ⟨element, there, kind, width⟩ := found
  exact ⟨(List.getElem?_eq_some_iff.mp there).1, element, there, kind, width⟩

theorem prepareLine_wellPlaced {spec : LineSpec ℚ} {line : Line ℚ}
    (prepared : layout.prepareLine spec = .ok line) :
    (Element.line line).WellPlaced layout layout.elements.length := by
  have declared := prepareLine_declared prepared
  obtain ⟨start, finish, _, _, started, finished, _, flat, rfl⟩ := prepareLine_ok prepared
  refine ⟨rfl, ?_, ?_, ?_, ?_⟩
  · intro tip attachment attached
    cases tip with
    | start => exact leadsBack_of_found (lineStart_attached started attached)
    | finish => exact leadsBack_of_found (lineFinish_attached finished attached)
  · intro connector impossible
    contradiction
  · rintro _ parent ⟨rfl⟩ impossible
    contradiction
  · rintro _ ⟨rfl⟩
    refine { declared.sound with phase := normalizeSkip_phase _, flat := ?_ }
    rw [abs_sub_comm]
    rw [Scalar.abs_eq] at flat
    exact not_lt.mp flat

theorem connectorTip_leadsBack {id : String} {tip : Tip} {position : Point ℚ}
    {attachment : Attachment ℚ}
    (resolved : layout.connectorTip id tip = .ok (position, some attachment)) :
    attachment.LeadsBack layout layout.elements.length ∧
      ∃ line, layout.line? attachment.target = some line := by
  rw [connectorTip_eq] at resolved
  obtain ⟨point, found, result⟩ := map_eq_ok.mp resolved
  obtain ⟨attached, isLine⟩ := Option.filter_eq_some_iff.mp (congrArg Prod.snd result)
  obtain ⟨element, there, kind, width, _⟩ := Resolver.attach_attached found attached
  refine ⟨leadsBack_of_found ⟨element, there, kind, width⟩, ?_⟩
  cases element with
  | line line => exact ⟨line, line?_eq_some_iff.mpr there⟩
  | connector connector => simp [kind, Element.kind] at isLine

theorem prepareConnector_wellPlaced {spec : ConnectorSpec ℚ} {connector : Connector ℚ}
    (prepared : layout.prepareConnector spec = .ok connector) :
    (Element.connector connector).WellPlaced layout layout.elements.length := by
  obtain ⟨_, _, start, first, finish, last, _, started, finished, _, rfl⟩ :=
    prepareConnector_ok prepared
  obtain ⟨firstLeads, firstLine, firstFound⟩ := connectorTip_leadsBack started
  obtain ⟨lastLeads, lastLine, lastFound⟩ := connectorTip_leadsBack finished
  refine ⟨rfl, ?_, ?_, ?_, ?_⟩
  · intro tip attachment attached
    cases tip with
    | start => exact Option.some.inj attached ▸ firstLeads
    | finish => exact Option.some.inj attached ▸ lastLeads
  · rintro _ - tip
    cases tip with
    | start => exact ⟨first, firstLine, rfl, firstFound⟩
    | finish => exact ⟨last, lastLine, rfl, lastFound⟩
  · intro line parent impossible
    contradiction
  · intro line impossible
    contradiction

end Additions

namespace Consistent

variable {layout : Layout ℚ}

theorem push_revised (consistent : layout.Consistent) {once twice : Layout ℚ}
    (first : layout.Revision once) (second : once.Revision twice) {element : Element ℚ}
    (placed : element.WellPlaced layout layout.elements.length) :
    (twice.push element).1.Consistent := by
  refine ((consistent.revise first).revise second).push ?_
  rw [second.length, first.length]
  exact second.toCarries.wellPlaced (first.toCarries.wellPlaced placed (.refl _)) (.refl _)

theorem addLine (consistent : layout.Consistent) (spec : LineSpec ℚ) :
    (layout.addLine spec).1.Consistent := by
  unfold Layout.addLine
  cases prepared : layout.prepareLine spec with
  | error failure => exact consistent
  | ok line =>
      exact consistent.push_revised (layout.revision_markRight _) (revision_markLeft _ _)
        (prepareLine_wellPlaced prepared)

theorem addConnector (consistent : layout.Consistent) (spec : ConnectorSpec ℚ) :
    (layout.addConnector spec).1.Consistent := by
  unfold Layout.addConnector
  cases prepared : layout.prepareConnector spec with
  | error failure => exact consistent
  | ok connector =>
      exact consistent.push_revised (layout.revision_markRight _) (revision_markRight _ _)
        (prepareConnector_wellPlaced prepared)

theorem center (consistent : layout.Consistent) : layout.center.Consistent :=
  consistent.revise layout.revision_center

theorem rightPart_wellPlaced (consistent : layout.Consistent) {handle : Nat} {line : Line ℚ} {x : ℚ}
    (found : layout.line? handle = some line) (inside : line.start.x < x ∧ x < line.finish.x) :
    (Element.line (line.rightPart x handle)).WellPlaced (layout.setLine handle (line.leftPart x))
      (layout.setLine handle (line.leftPart x)).elements.length := by
  have known := consistent.placed handle _ (line?_eq_some_iff.mp found)
  have revision := revision_setLine found (Line.Revision.leftPart line inside.1)
  have bound : handle < (layout.setLine handle (line.leftPart x)).elements.length := by
    rw [revision.length]
    exact line?_bound found
  refine ⟨known.elevation, ?_, ?_, ?_, ?_⟩
  · intro tip attachment attached
    cases tip with
    | start => contradiction
    | finish =>
        have leads := revision.toCarries.leadsBack (known.attached .finish attachment attached)
        exact { leads with earlier := leads.earlier.trans bound }
  · intro connector impossible
    contradiction
  · rintro _ _ ⟨rfl⟩ ⟨rfl⟩
    refine ⟨rfl, rfl, bound, line.leftPart x, ?_, rfl⟩
    rw [line?_setLine _ (line?_bound found), if_pos rfl]
  · rintro _ ⟨rfl⟩
    exact (consistent.line found).rightPart inside.2 handle

theorem afterCut (consistent : layout.Consistent) {handle : Nat} {line : Line ℚ} {x : ℚ}
    (step : layout.CutStep handle line x) :
    (layout.afterCut handle (line.leftPart x) (line.rightPart x handle)).Consistent := by
  have inside := step.inside (consistent.line step.found).toSound
  have revision := revision_setLine step.found (Line.Revision.leftPart line inside.1)
  exact (consistent.revise revision).push (consistent.rightPart_wellPlaced step.found inside)

theorem afterSplit (consistent : layout.Consistent) {upper lower : Nat} {up low : Line ℚ}
    (step : layout.SplitStep upper lower up low) :
    (layout.afterSplit upper lower up low).Consistent := by
  have upSound := (consistent.line step.upper).toSound
  have lowSound := (consistent.line step.lower).toSound
  have enough := le_shares step.crowded.apart
  have lowKept : ∀ line, (layout.setLine upper line).line? lower = some low := fun line =>
    (line?_setLine_of_ne line step.different.symm).trans step.lower
  have softened := revision_setLine step.upper
    (Line.Revision.withSoftDown (upSound.down ▸ enough.1))
  exact (consistent.revise softened).revise
    (revision_setLine (lowKept _) (Line.Revision.withSoftUp (lowSound.up ▸ enough.2)))

theorem settling (consistent : layout.Consistent) {cuts : Nat} {state : Layout ℚ}
    (run : Settling layout cuts state) : state.Consistent := by
  refine SettlingWith.along (motive := fun _ state => state.Consistent) consistent ?_ ?_ run
  · exact fun _ before step _ => before.afterCut step
  · exact fun _ before step => before.afterSplit step

theorem settle (consistent : layout.Consistent) : layout.settle.1.Consistent := by
  obtain ⟨cuts, run, _⟩ := (settle_ended consistent.allSound).outcome
  exact consistent.settling run

end Consistent

/-- The layouts that can be reached from an empty one by any sequence of operations, failed ones
included. -/
inductive Reached (thickness : Option ℚ) : Layout ℚ → Prop
  | empty : Reached thickness (Layout.empty thickness)
  | line {layout : Layout ℚ} (spec : LineSpec ℚ) :
      Reached thickness layout → Reached thickness (layout.addLine spec).1
  | connector {layout : Layout ℚ} (spec : ConnectorSpec ℚ) :
      Reached thickness layout → Reached thickness (layout.addConnector spec).1
  | center {layout : Layout ℚ} : Reached thickness layout → Reached thickness layout.center
  | settle {layout : Layout ℚ} : Reached thickness layout → Reached thickness layout.settle.1

namespace Reached

variable {thickness : Option ℚ} {layout : Layout ℚ}

theorem consistent (reached : layout.Reached thickness) : layout.Consistent := by
  induction reached with
  | empty => exact .empty thickness
  | line spec _ ih => exact ih.addLine spec
  | connector spec _ ih => exact ih.addConnector spec
  | center _ ih => exact ih.center
  | settle _ ih => exact ih.settle

theorem thickness_eq (reached : layout.Reached thickness) : layout.thickness = thickness := by
  induction reached with
  | empty => rfl
  | @line layout spec _ ih => rw [addLine_thickness, ih]
  | @connector layout spec _ ih => rw [addConnector_thickness, ih]
  | center _ ih => exact ih
  | @settle layout reached ih =>
      obtain ⟨cuts, run, _⟩ := (settle_ended reached.consistent.allSound).outcome
      rw [run.untouched.thickness, ih]

theorem add (reached : layout.Reached thickness) (spec : ElementSpec ℚ) :
    (layout.add spec).1.Reached thickness := by
  cases spec with
  | line spec => exact .line spec reached
  | connector spec => exact .connector spec reached

theorem addAll (reached : layout.Reached thickness) {specs : List (ElementSpec ℚ)}
    {result : Layout ℚ} (done : layout.addAll specs = .ok result) : result.Reached thickness := by
  induction specs generalizing layout with
  | nil => exact Except.ok.inj done ▸ reached
  | cons spec specs ih =>
      have next := reached.add spec
      rw [Layout.addAll] at done
      split at done
      · rename_i added handle same
        rw [same] at next
        exact ih next done
      · contradiction

end Reached

theorem Built.reached {layout : Layout ℚ} (built : layout.Built) :
    ∃ thickness, layout.Reached thickness := by
  induction built with
  | empty thickness => exact ⟨thickness, .empty⟩
  | line spec _ ih => exact ih.imp fun _ => .line spec
  | connector spec _ ih => exact ih.imp fun _ => .connector spec
  | center _ ih => exact ih.imp fun _ => .center

/-- Every layout that can be reached is consistent, and all its elements have one elevation. -/
theorem reached_consistent {thickness : Option ℚ} {layout : Layout ℚ}
    (reached : layout.Reached thickness) :
    layout.thickness = thickness ∧ layout.Consistent ∧
      ∀ (a b : Nat) (first second : Element ℚ) (id : String), layout.elements[a]? = some first →
        layout.elements[b]? = some second → first.id = some id → second.id = some id → a = b :=
  ⟨reached.thickness_eq, reached.consistent,
    fun _ _ _ _ _ first second => reached.consistent.distinct first second⟩

def namedLine (id : String) (start finish : Point ℚ) : LineSpec ℚ :=
  { LineSpec.between sampleGuide start finish with id := some id }

def tipOf (id : String) (tip : Tip) : PointSpec ℚ :=
  ⟨none, none, none, some id, tip, none, none, none⟩

def joinedLayout : Layout ℚ :=
  let lines := ((Layout.empty (some 3)).addLine (namedLine "a" ⟨0, 0⟩ ⟨30, 0⟩)).1.addLine
    (namedLine "b" ⟨10, 7⟩ ⟨50, 7⟩)
  let joined := lines.1.addConnector
    ⟨some "c", none, tipOf "a" .finish, tipOf "b" .finish, ⟨2, .dielectric 1⟩⟩
  (joined.1.addLine { namedLine "d" ⟨0, 0⟩ ⟨60, 0⟩ with start := tipOf "c" .start }).1

def extendedLayout : Layout ℚ :=
  let settled := joinedLayout.center.settle
  let start : PointSpec ℚ := ⟨none, some (-7), some "a", none, .finish, none, none, none⟩
  let finish : PointSpec ℚ := ⟨none, none, none, none, .start, none, some 3, none⟩
  let extended := settled.1.addLine { namedLine "e" ⟨0, 0⟩ ⟨0, 0⟩ with start, finish }
  (extended.1.addLine (namedLine "b" ⟨0, 40⟩ ⟨30, 40⟩)).1.center.settle.1

theorem reached_joinedLayout : joinedLayout.Reached (some 3) :=
  .line _ (.connector _ (.line _ (.line _ .empty)))

theorem extendedLayout_consistent :
    extendedLayout.Reached (some 3) ∧ extendedLayout.elements.length = 12 ∧
      extendedLayout.thickness = some 3 ∧ extendedLayout.Consistent ∧
      ∀ (a b : Nat) (first second : Element ℚ) (id : String),
        extendedLayout.elements[a]? = some first → extendedLayout.elements[b]? = some second →
        first.id = some id → second.id = some id → a = b :=
  have reached : extendedLayout.Reached (some 3) :=
    .settle (.center (.line _ (.line _ (.settle (.center reached_joinedLayout)))))
  ⟨reached, by decide +kernel, reached_consistent reached⟩

end Layout

end Waveguide
