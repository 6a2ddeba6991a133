import Mathlib
import Waveguide.Proofs.Consistency
import Waveguide.Proofs.Fittings
import Waveguide.Proofs.Rows

/-!
Marks and attachments. A point of an element is marked on a side just when something was attached to
it on that side. A cut takes the end of a line away from its place: the marks of that end go with it
to the last part of the line, while what was attached to it still names the line.
-/

namespace Waveguide

variable {K : Type}

namespace Element

theorem marks_unmarked (element : Element K) (side : Side) :
    element.unmarked.marks side = element.marks side := by
  cases element with
  | line placed => cases side <;> rfl
  | connector placed => cases side <;> rfl

theorem marks_shift [Scalar K] (element : Element K) (offset : Point K) (side : Side) :
    (element.shift offset).marks side = element.marks side := by
  cases element with
  | line placed => cases side <;> rfl
  | connector placed => cases side <;> rfl

theorem isMarked_shift [Scalar K] (element : Element K) (offset : Point K) (side : Side)
    (tip : Tip) :
    ((element.shift offset).tip tip).isMarked side = (element.tip tip).isMarked side := by
  cases element with
  | line placed => cases tip <;> cases side <;> rfl
  | connector placed => cases tip <;> cases side <;> rfl

end Element

namespace Layout

/-- The layouts that additions, admitted or refused, and centerings make of an empty one. -/
inductive Assembled [Scalar K] : Layout K → Prop
  | empty (thickness : Option K) : Assembled (Layout.empty thickness)
  | line {layout : Layout K} (spec : LineSpec K) :
      Assembled layout → Assembled (layout.addLine spec).1
  | connector {layout : Layout K} (spec : ConnectorSpec K) :
      Assembled layout → Assembled (layout.addConnector spec).1
  | center {layout : Layout K} : Assembled layout → Assembled layout.center

def attachments (layout : Layout K) (side : Side) : List (Attachment K) :=
  layout.elements.flatMap fun element => element.marks side

def Occupied (layout : Layout K) (place : Nat) (side : Side) (tip : Tip) : Prop :=
  ∃ given ∈ layout.attachments side, given.Names place tip

def MarksAgree (layout : Layout K) : Prop :=
  ∀ (place : Nat) (element : Element K), layout.elements[place]? = some element →
    ∀ side tip, (element.tip tip).isMarked side = true ↔ layout.Occupied place side tip

/-- The marks agree with the attachments, all of which are to elements of the layout. -/
structure Tallied (layout : Layout K) : Prop where
  agree : layout.MarksAgree
  within : ∀ side, ∀ given ∈ layout.attachments side, given.target < layout.elements.length

theorem Tallied.not_occupied {layout : Layout K} (tallied : layout.Tallied) {place : Nat}
    (beyond : layout.elements.length ≤ place) (side : Side) (tip : Tip) :
    ¬ layout.Occupied place side tip := by
  rintro ⟨given, member, rfl, _⟩
  exact absurd (tallied.within side given member) (not_lt.mpr beyond)

structure Arrives (layout : Layout K) (element : Element K) : Prop where
  bare : ∀ side tip, (element.tip tip).isMarked side = false
  within : ∀ side, ∀ given ∈ element.marks side, given.target < layout.elements.length

section Addition

variable {layout next : Layout K} {element : Element K}

theorem Addition.attachments (addition : layout.Addition element next) (side : Side) :
    next.attachments side = layout.attachments side ++ element.marks side := by
  have views : next.elements.map (fun other => other.marks side) =
      layout.elements.map (fun other => other.marks side) ++ [element.marks side] :=
    addition.map_eq fun other => other.marks_unmarked side
  simp only [Layout.attachments, List.flatMap_def, views, List.flatten_append, List.flatten_cons,
    List.flatten_nil, List.append_nil]

theorem Addition.occupied (addition : layout.Addition element next) (place : Nat) (side : Side)
    (tip : Tip) : next.Occupied place side tip ↔
      layout.Occupied place side tip ∨ ∃ given ∈ element.marks side, given.Names place tip := by
  simp only [Occupied, addition.attachments, List.mem_append, or_and_right, exists_or]

theorem Tallied.addition (tallied : layout.Tallied) (addition : layout.Addition element next)
    (arrives : layout.Arrives element) : next.Tallied where
  agree := by
    intro place new found side tip
    rw [addition.occupied]
    rcases Nat.lt_or_ge place layout.elements.length with earlier | last
    · have old := List.getElem?_eq_getElem earlier
      obtain ⟨marked, placed, same⟩ := addition.earlier place _ old
      obtain rfl := Option.some.inj (found.symm.trans placed)
      rw [same.marks, tallied.agree place _ old]
    · have bound := (List.getElem?_eq_some_iff.mp found).1
      rw [addition.count] at bound
      obtain rfl : place = layout.elements.length := by omega
      obtain rfl := Option.some.inj (found.symm.trans addition.last)
      rw [arrives.bare]
      refine iff_of_false Bool.false_ne_true ?_
      rintro (before | ⟨given, member, names, _⟩)
      · exact tallied.not_occupied le_rfl side tip before
      · exact (arrives.within side given member).ne names
  within := by
    intro side given member
    rw [addition.attachments, List.mem_append] at member
    rw [addition.count]
    rcases member with before | new
    · exact (tallied.within side given before).trans (Nat.lt_succ_self _)
    · exact (arrives.within side given new).trans (Nat.lt_succ_self _)

end Addition

section Assembled

variable [Scalar K] {layout : Layout K}

theorem prepareLine_arrives {spec : LineSpec K} {line : Line K}
    (prepared : layout.prepareLine spec = .ok line) : layout.Arrives (.line line) := by
  obtain ⟨start, finish, _, _, started, finished, _, _, rfl⟩ := prepareLine_ok prepared
  refine ⟨?_, ?_⟩
  · intro side tip
    cases tip <;> cases side <;> rfl
  · intro side given member
    cases side with
    | left =>
        obtain ⟨element, there, _⟩ := lineFinish_attached finished (Option.mem_toList.mp member)
        exact (List.getElem?_eq_some_iff.mp there).1
    | right =>
        obtain ⟨element, there, _⟩ := lineStart_attached started (Option.mem_toList.mp member)
        exact (List.getElem?_eq_some_iff.mp there).1

theorem prepareConnector_arrives {spec : ConnectorSpec K} {connector : Connector K}
    (prepared : layout.prepareConnector spec = .ok connector) :
    layout.Arrives (.connector connector) := by
  obtain ⟨_, _, start, first, finish, last, _, started, finished, _, rfl⟩ :=
    prepareConnector_ok prepared
  refine ⟨?_, ?_⟩
  · intro side tip
    cases tip <;> cases side <;> rfl
  · intro side given member
    cases side with
    | left => exact absurd member List.not_mem_nil
    | right =>
        have either : given = first ∨ given = last := by
          simpa [Element.marks, Endpoint.attached] using member
        rcases either with rfl | rfl
        · obtain ⟨line, there, _⟩ := connectorTip_joins started
          exact line?_bound there
        · obtain ⟨line, there, _⟩ := connectorTip_joins finished
          exact line?_bound there

theorem prepare_arrives {spec : ElementSpec K} {element : Element K}
    (prepared : layout.prepare spec = .ok element) : layout.Arrives element := by
  cases spec with
  | line spec =>
      obtain ⟨line, made, rfl⟩ := map_eq_ok.mp prepared
      exact prepareLine_arrives made
  | connector spec =>
      obtain ⟨connector, made, rfl⟩ := map_eq_ok.mp prepared
      exact prepareConnector_arrives made

theorem Tallied.add (tallied : layout.Tallied) (spec : ElementSpec K) :
    (layout.add spec).1.Tallied := by
  cases prepared : layout.prepare spec with
  | error failure =>
      rw [add_refused prepared]
      exact tallied
  | ok element =>
      obtain ⟨_, next, addition, added⟩ := add_admitted prepared
      rw [added]
      exact tallied.addition addition (prepare_arrives prepared)

theorem attachments_center (layout : Layout K) (side : Side) :
    layout.center.attachments side = layout.attachments side := by
  simp only [attachments, Layout.center, List.flatMap_map, Element.marks_shift]

theorem Tallied.center (tallied : layout.Tallied) : layout.center.Tallied where
  agree := by
    intro place element found side tip
    obtain ⟨before, known, rfl⟩ := Option.map_eq_some_iff.mp (List.getElem?_map.symm.trans found)
    rw [Element.isMarked_shift, tallied.agree place before known, Occupied, Occupied,
      attachments_center]
  within := by
    intro side given member
    rw [attachments_center] at member
    rw [Layout.center, List.length_map]
    exact tallied.within side given member

theorem tallied_empty (thickness : Option K) : (Layout.empty thickness).Tallied where
  agree := by
    intro place element impossible
    simp [Layout.empty] at impossible
  within := by
    intro side given impossible
    exact absurd impossible List.not_mem_nil

theorem Assembled.tallied (assembled : layout.Assembled) : layout.Tallied := by
  induction assembled with
  | empty thickness => exact tallied_empty thickness
  | line spec _ ih => exact ih.add (.line spec)
  | connector spec _ ih => exact ih.add (.connector spec)
  | center _ ih => exact ih.center

theorem Assembled.fresh (assembled : layout.Assembled) : layout.Fresh := by
  induction assembled with
  | empty thickness => exact fresh_empty thickness
  | line spec _ ih => exact ih.addLine spec
  | connector spec _ ih => exact ih.addConnector spec
  | center _ ih => exact ih.center

end Assembled

section Settle

variable [Scalar K] {declared state : Layout K} {handle : Nat} {line : Line K}

omit [Scalar K] in
theorem attachments_soften (found : state.line? handle = some line) (clearance : Clearance K)
    (side : Side) :
    (state.setLine handle { line with clearance }).attachments side = state.attachments side := by
  have marks : (Element.line { line with clearance }).marks side =
      (Element.line line).marks side := by
    cases side <;> rfl
  simp only [attachments, List.flatMap_def,
    map_elements_setLine (fun element => element.marks side) found marks]

theorem attachments_afterCut (found : state.line? handle = some line) (x : K) (side : Side) :
    ((state.afterCut handle (line.leftPart x) (line.rightPart x handle)).attachments side).Perm
      (state.attachments side) := by
  obtain ⟨bound, there⟩ := List.getElem?_eq_some_iff.mp (line?_eq_some_iff.mp found)
  have parted : ∃ before after, state.elements = before ++ state.elements[handle] :: after ∧
      before.length = handle ∧ state.elements.set handle (.line (line.leftPart x)) =
        before ++ .line (line.leftPart x) :: after := List.exists_of_set bound
  obtain ⟨before, after, whole, _, replaced⟩ := parted
  rw [there] at whole
  rw [attachments, attachments, Layout.afterCut, replaced, whole]
  simp only [List.flatMap_append, List.flatMap_cons, List.flatMap_nil, List.append_nil]
  cases side with
  | left =>
      have left : (Element.line (line.leftPart x)).marks .left = [] := rfl
      have fragment : (Element.line (line.rightPart x handle)).marks .left =
          (Element.line line).marks .left := rfl
      rw [left, fragment, List.nil_append, List.append_assoc]
      exact List.perm_append_comm.append_left _
  | right =>
      have left : (Element.line (line.leftPart x)).marks .right =
          (Element.line line).marks .right := rfl
      have fragment : (Element.line (line.rightPart x handle)).marks .right = [] := rfl
      rw [left, fragment, List.append_nil]

theorem attachments_settleWithin (layout : Layout K) (scans cuts : Nat) (side : Side) :
    ((layout.settleWithin scans cuts).1.attachments side).Perm (layout.attachments side) := by
  refine settleWithin_preserves
    (motive := fun state => (state.attachments side).Perm (layout.attachments side))
    ?_ ?_ scans cuts (.refl _)
  · intro state handle line same found clearance
    rw [attachments_soften found]
    exact same
  · intro state handle line same found x
    exact (attachments_afterCut found x side).trans same

theorem occupied_settleWithin (layout : Layout K) (scans cuts place : Nat) (side : Side)
    (tip : Tip) :
    (layout.settleWithin scans cuts).1.Occupied place side tip ↔
      layout.Occupied place side tip := by
  simp only [Occupied, (attachments_settleWithin layout scans cuts side).mem_iff]

end Settle

/-- The parts of a line, of which the first starts and the last ends with the marks of what is
attached to the line there. There are no marks in between. -/
structure MarkedParts (state : Layout K) (root : Nat) (parts : List (Nat × Line K)) : Prop where
  start : ∃ first rest, parts = (root, first) :: rest ∧
    ∀ side, first.start.isMarked side = true ↔ state.Occupied root side .start
  finish : ∃ others last, parts = others ++ [last] ∧
    ∀ side, last.2.finish.isMarked side = true ↔ state.Occupied root side .finish
  between : parts.IsChain fun a b => ∀ side,
    a.2.finish.isMarked side = false ∧ b.2.start.isMarked side = false

theorem InParts.marked {state : Layout K} {root : Nat} {original : Line K}
    {parts : List (Nat × Line K)} (inParts : state.InParts root original parts)
    (agree : ∀ side tip, ((Element.line original).tip tip).isMarked side = true ↔
      state.Occupied root side tip) : state.MarkedParts root parts where
  start := by
    obtain ⟨line, rest, rfl⟩ := inParts.first
    obtain ⟨first, _, same, starts⟩ := inParts.row.head
    obtain ⟨rfl, _⟩ := List.cons.inj same
    refine ⟨line, rest, rfl, fun side => ?_⟩
    rw [starts]
    exact agree side .start
  finish := by
    obtain ⟨others, last, split, ends⟩ := inParts.row.last
    refine ⟨others, last, split, fun side => ?_⟩
    rw [ends]
    exact agree side .finish
  between := by
    refine inParts.row.meeting.imp ?_
    rintro a b ⟨point, ends, starts⟩ side
    rw [ends, starts]
    cases side with
    | left => exact ⟨rfl, rfl⟩
    | right => exact ⟨rfl, rfl⟩

/-- The marks of a layout that was settled agree with its attachments, with the end of a line read
as that of the last of its parts. -/
structure MarksFollow (declared state : Layout K) : Prop extends Sectioned declared state where
  connectorMarks : ∀ (place : Nat) (connector : Connector K),
    state.elements[place]? = some (.connector connector) → ∀ side tip,
      ((Element.connector connector).tip tip).isMarked side = true ↔
        state.Occupied place side tip
  lineMarks : ∀ root original parts, declared.line? root = some original →
    state.InParts root original parts → state.MarkedParts root parts
  fragments : ∀ place, declared.elements.length ≤ place → ∀ side tip,
    ¬ state.Occupied place side tip

theorem Tallied.follow {declared state : Layout K} (tallied : declared.Tallied)
    (sectioned : Sectioned declared state)
    (same : ∀ place side tip, state.Occupied place side tip ↔ declared.Occupied place side tip) :
    MarksFollow declared state where
  toSectioned := sectioned
  connectorMarks := by
    intro place connector found side tip
    rw [same]
    exact tallied.agree place _ ((sectioned.connectors place connector).mp found) side tip
  lineMarks := by
    intro root original parts found inParts
    refine inParts.marked fun side tip => ?_
    rw [same]
    exact tallied.agree root _ (line?_eq_some_iff.mp found) side tip
  fragments := by
    intro place beyond side tip
    rw [same]
    exact tallied.not_occupied beyond side tip

/-- A point bears a mark if and only if something is attached to it on that side. This stays so
however many scans are made to settle the layout, though the end of a line may move to a part of
it. -/
theorem marks_agree [Scalar K] {layout : Layout K} (assembled : layout.Assembled) :
    layout.MarksAgree ∧ ∀ scans, layout.MarksFollow (layout.settleWithin scans 0).1 := by
  refine ⟨assembled.tallied.agree, fun scans => ?_⟩
  have sectioned : layout.Sectioned (layout.settleWithin scans 0).1 :=
    settleWithin_preserves Sectioned.soften Sectioned.afterCut scans 0 assembled.fresh.sectioned
  exact assembled.tallied.follow sectioned (layout.occupied_settleWithin scans 0)

def markedLayout : Layout ℚ :=
  (joinedLayout.addLine (namedLine "b" ⟨0, 40⟩ ⟨30, 40⟩)).1.center

theorem markedLayout_agrees :
    markedLayout.Assembled ∧
      markedLayout.settle.1.lines.map (fun entry => (entry.2.parent, entry.2.finish.right)) =
        [(none, false), (none, false), (none, false), (some 0, true), (some 1, true),
          (some 1, false), (some 3, false)] ∧
      markedLayout.MarksAgree ∧
      ∀ scans, markedLayout.MarksFollow (markedLayout.settleWithin scans 0).1 :=
  have assembled : markedLayout.Assembled :=
    .center (.line _ (.line _ (.connector _ (.line _ (.line _ (.empty (some 3)))))))
  ⟨assembled, by decide +kernel, marks_agree assembled⟩

end Layout

end Waveguide
