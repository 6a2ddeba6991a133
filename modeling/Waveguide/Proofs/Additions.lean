import Mathlib
import Waveguide.Proofs.Anchors
import Waveguide.Proofs.Points

/-!
Adding an element to a layout. A refused element leaves the layout as it was. One that is admitted
stands last; what was there before it stays, but for the marks at the points that the new element is
attached to.
-/

namespace Waveguide

inductive Side where
  | left
  | right
  deriving DecidableEq

variable {K : Type}

def ElementSpec.id : ElementSpec K → Option String
  | .line spec => spec.id
  | .connector spec => spec.id

def Attachment.Names (attachment : Attachment K) (place : Nat) (tip : Tip) : Prop :=
  attachment.target = place ∧ attachment.tip = tip

namespace Endpoint

def isMarked (endpoint : Endpoint K) : Side → Bool
  | .left => endpoint.left
  | .right => endpoint.right

def mark : Side → Endpoint K → Endpoint K
  | .left => markLeft
  | .right => markRight

def unmarked (endpoint : Endpoint K) : Endpoint K :=
  { endpoint with right := false, left := false }

theorem unmarked_mark (side : Side) (endpoint : Endpoint K) :
    (endpoint.mark side).unmarked = endpoint.unmarked := by
  cases side with
  | left => rfl
  | right => rfl

theorem isMarked_mark (side : Side) (endpoint : Endpoint K) (other : Side) :
    (endpoint.mark side).isMarked other = true ↔ endpoint.isMarked other = true ∨ other = side := by
  cases side with
  | left => cases other <;> simp [mark, isMarked, markLeft]
  | right => cases other <;> simp [mark, isMarked, markRight]

end Endpoint

namespace Element

/-- The attachments of an element that mark their points at a side. A line lies to the right of what
its start is attached to, a connector to the right of both of its lines. -/
def marks : Element K → Side → List (Attachment K)
  | .line self, .left => self.finish.attachment.toList
  | .line self, .right => self.start.attachment.toList
  | .connector _, .left => []
  | .connector self, .right => self.start.attachment.toList ++ self.finish.attachment.toList

def unmarked (element : Element K) : Element K :=
  (element.modifyTip Endpoint.unmarked .start).modifyTip Endpoint.unmarked .finish

structure Marked (named : Side → Tip → Prop) (old new : Element K) : Prop where
  same : new.unmarked = old.unmarked
  marks : ∀ side tip, (new.tip tip).isMarked side = true ↔
    (old.tip tip).isMarked side = true ∨ named side tip

theorem tip_modifyTip (element : Element K) (change : Endpoint K → Endpoint K) (changed tip : Tip) :
    (element.modifyTip change changed).tip tip =
      if tip = changed then change (element.tip tip) else element.tip tip := by
  cases element with
  | line placed => cases changed <;> cases tip <;> rfl
  | connector placed => cases changed <;> cases tip <;> rfl

theorem unmarked_modifyTip (element : Element K) (side : Side) (tip : Tip) :
    (element.modifyTip (Endpoint.mark side) tip).unmarked = element.unmarked := by
  cases element with
  | line placed =>
      cases tip with
      | start => exact congrArg Element.line (by simp only [Endpoint.unmarked_mark])
      | finish => exact congrArg Element.line (by simp only [Endpoint.unmarked_mark])
  | connector placed =>
      cases tip with
      | start => exact congrArg Element.connector (by simp only [Endpoint.unmarked_mark])
      | finish => exact congrArg Element.connector (by simp only [Endpoint.unmarked_mark])

namespace Marked

variable {named : Side → Tip → Prop} {old new : Element K}

theorem refl (element : Element K) : element.Marked (fun _ _ => False) element :=
  ⟨rfl, by simp⟩

theorem congr (marked : old.Marked named new) {other : Side → Tip → Prop}
    (same : ∀ side tip, other side tip ↔ named side tip) : old.Marked other new :=
  ⟨marked.same, fun side tip => by rw [same, marked.marks]⟩

theorem mark (marked : old.Marked named new) (side : Side) (tip : Tip) :
    old.Marked (fun otherSide otherTip => named otherSide otherTip ∨
      otherSide = side ∧ otherTip = tip) (new.modifyTip (Endpoint.mark side) tip) where
  same := (new.unmarked_modifyTip side tip).trans marked.same
  marks := by
    intro otherSide otherTip
    rw [tip_modifyTip, ← or_assoc, ← marked.marks]
    split
    · rename_i here
      rw [Endpoint.isMarked_mark, and_iff_left here]
    · rename_i elsewhere
      simp [elsewhere]

end Marked

end Element

namespace Layout

structure Marks (named : Nat → Side → Tip → Prop) (layout other : Layout K) : Prop where
  count : other.elements.length = layout.elements.length
  elements : ∀ (place : Nat) (old : Element K), layout.elements[place]? = some old →
    ∃ new : Element K, other.elements[place]? = some new ∧ old.Marked (named place) new
  index : other.index = layout.index
  bounds : other.bounds = layout.bounds
  thickness : other.thickness = layout.thickness

namespace Marks

variable {named : Nat → Side → Tip → Prop} {layout other : Layout K}

theorem refl (layout : Layout K) : Marks (fun _ _ _ => False) layout layout :=
  ⟨rfl, fun _ old found => ⟨old, found, .refl old⟩, rfl, rfl, rfl⟩

theorem congr (marks : Marks named layout other) {renamed : Nat → Side → Tip → Prop}
    (same : ∀ place side tip, renamed place side tip ↔ named place side tip) :
    Marks renamed layout other :=
  { marks with
    elements := fun place old found => by
      obtain ⟨new, placed, marked⟩ := marks.elements place old found
      exact ⟨new, placed, marked.congr (same place)⟩ }

theorem modifyTip (marks : Marks named layout other) (attachment : Attachment K) (side : Side) :
    Marks (fun place otherSide tip => named place otherSide tip ∨
        otherSide = side ∧ attachment.Names place tip)
      layout (other.modifyTip attachment (Endpoint.mark side)) where
  count := by rw [Layout.modifyTip, List.length_modify, marks.count]
  index := marks.index
  bounds := marks.bounds
  thickness := marks.thickness
  elements := by
    intro place old found
    obtain ⟨new, placed, marked⟩ := marks.elements place old found
    simp only [Layout.modifyTip, List.getElem?_modify, placed, Option.map_eq_map, Option.map_some,
      Option.some.injEq, exists_eq_left']
    by_cases here : attachment.target = place
    · rw [if_pos here]
      refine (marked.mark side attachment.tip).congr fun otherSide tip => ?_
      rw [Attachment.Names, and_iff_right here, eq_comm (a := attachment.tip)]
    · rw [if_neg here]
      refine marked.congr fun otherSide tip => ?_
      simp [Attachment.Names, here]

theorem markRight (marks : Marks named layout other) (attachment : Option (Attachment K)) :
    Marks (fun place side tip => named place side tip ∨
        side = .right ∧ ∃ given ∈ attachment.toList, given.Names place tip)
      layout (other.markRight attachment) := by
  cases attachment with
  | none => exact marks.congr (by simp)
  | some attachment => exact (marks.modifyTip attachment .right).congr (by simp)

theorem markLeft (marks : Marks named layout other) (attachment : Option (Attachment K)) :
    Marks (fun place side tip => named place side tip ∨
        side = .left ∧ ∃ given ∈ attachment.toList, given.Names place tip)
      layout (other.markLeft attachment) := by
  cases attachment with
  | none => exact marks.congr (by simp)
  | some attachment => exact (marks.modifyTip attachment .left).congr (by simp)

end Marks

/-- A layout to which an element has been added: it stands last, under its name, which was free, and
just the points that it is attached to are marked in addition. -/
structure Addition (layout : Layout K) (element : Element K) (next : Layout K) : Prop where
  count : next.elements.length = layout.elements.length + 1
  last : next.elements[layout.elements.length]? = some element
  earlier : ∀ (place : Nat) (old : Element K), layout.elements[place]? = some old →
    ∃ new : Element K, next.elements[place]? = some new ∧
      old.Marked (fun side tip => ∃ given ∈ element.marks side, given.Names place tip) new
  free : ∀ id, element.id = some id → layout.find? id = none
  names : next.index.entries =
    layout.index.entries ++ element.id.toList.map fun id => (id, layout.elements.length)
  bounds : next.bounds = layout.bounds
  thickness : next.thickness = layout.thickness

variable {layout marked : Layout K} {element : Element K}

theorem checkId_ok {id : Option String} (free : layout.checkId id = .ok ()) :
    ∀ name, id = some name → layout.find? name = none := by
  rintro name rfl
  by_contra taken
  have contained : layout.index.contains name = true := Option.isSome_iff_ne_none.mpr taken
  simp [checkId, contained] at free

theorem push_addition (marks : Marks (fun place side tip =>
      ∃ given ∈ element.marks side, given.Names place tip) layout marked)
    (free : layout.checkId element.id = .ok ()) :
    ∃ next, layout.Addition element next ∧
      marked.push element = (next, .ok layout.elements.length) := by
  have unknown := checkId_ok free
  have longer : (marked.elements ++ [element]).length = layout.elements.length + 1 := by
    rw [List.length_append, marks.count, List.length_singleton]
  have last : (marked.elements ++ [element])[layout.elements.length]? = some element := by
    rw [← marks.count, List.getElem?_concat_length]
  have earlier : ∀ (place : Nat) (old : Element K), layout.elements[place]? = some old →
      ∃ new : Element K, (marked.elements ++ [element])[place]? = some new ∧
        old.Marked (fun side tip => ∃ given ∈ element.marks side, given.Names place tip) new := by
    intro place old found
    obtain ⟨new, placed, same⟩ := marks.elements place old found
    have bound := (List.getElem?_eq_some_iff.mp placed).1
    exact ⟨new, (List.getElem?_append_left bound).trans placed, same⟩
  cases named : element.id with
  | none =>
      refine ⟨{ marked with elements := marked.elements ++ [element] },
        ⟨longer, last, earlier, unknown, ?_, marks.bounds, marks.thickness⟩, ?_⟩
      · simp [named, marks.index]
      · simp only [push, named, marks.count]
  | some id =>
      have unused : marked.index.contains id = false := by
        rw [marks.index, IdIndex.contains]
        exact Option.isSome_eq_false_iff.mpr (Option.isNone_iff_eq_none.mpr (unknown id named))
      refine ⟨{ marked with
          elements := marked.elements ++ [element]
          index := ⟨marked.index.entries ++ [(id, layout.elements.length)]⟩ },
        ⟨longer, last, earlier, unknown, ?_, marks.bounds, marks.thickness⟩, ?_⟩
      · simp [named, marks.index]
      · simp only [push, named, marks.count, IdIndex.register, unused, Bool.false_eq_true, if_false]

section Add

variable [Scalar K]

def prepare (layout : Layout K) : ElementSpec K → Except (Failure K) (Element K)
  | .line spec => (layout.prepareLine spec).map .line
  | .connector spec => (layout.prepareConnector spec).map .connector

structure LineMade (layout : Layout K) (spec : LineSpec K) (line : Line K) : Prop where
  free : layout.checkId spec.id = .ok ()
  id : line.id = spec.id
  comment : line.comment = spec.comment
  elevation : line.elevation = layout.thickness

structure ConnectorMade (layout : Layout K) (spec : ConnectorSpec K) (connector : Connector K) :
    Prop where
  free : layout.checkId spec.id = .ok ()
  id : connector.id = spec.id
  comment : connector.comment = spec.comment
  elevation : connector.elevation = layout.thickness
  start : ∃ id tip point attachment, layout.connectorTip id tip = .ok (point, some attachment) ∧
    connector.start.attachment = some attachment
  finish : ∃ id tip point attachment, layout.connectorTip id tip = .ok (point, some attachment) ∧
    connector.finish.attachment = some attachment

theorem prepareLine_made {spec : LineSpec K} {line : Line K}
    (prepared : layout.prepareLine spec = .ok line) : layout.LineMade spec line := by
  obtain ⟨_, _, free, _, _, _, _, _, rfl⟩ := prepareLine_ok prepared
  exact ⟨free, rfl, rfl, rfl⟩

theorem prepareConnector_made {spec : ConnectorSpec K} {connector : Connector K}
    (prepared : layout.prepareConnector spec = .ok connector) :
    layout.ConnectorMade spec connector := by
  obtain ⟨_, _, start, first, finish, last, free, startFound, finishFound, _, rfl⟩ :=
    prepareConnector_ok prepared
  exact ⟨free, rfl, rfl, rfl, ⟨_, _, start, first, startFound, rfl⟩,
    ⟨_, _, finish, last, finishFound, rfl⟩⟩

theorem addLine_addition {spec : LineSpec K} {line : Line K}
    (prepared : layout.prepareLine spec = .ok line) :
    ∃ next, layout.Addition (.line line) next ∧
      layout.addLine spec = (next, .ok layout.elements.length) := by
  have made := prepareLine_made prepared
  have marks := ((Marks.refl layout).markRight line.start.attachment).markLeft
    line.finish.attachment
  simp only [addLine, prepared]
  refine push_addition (marks.congr ?_) ?free
  case free =>
    rw [Element.id, made.id]
    exact made.free
  intro place side tip
  cases side with
  | left => simp [Element.marks]
  | right => simp [Element.marks]

theorem addConnector_addition {spec : ConnectorSpec K} {connector : Connector K}
    (prepared : layout.prepareConnector spec = .ok connector) :
    ∃ next, layout.Addition (.connector connector) next ∧
      layout.addConnector spec = (next, .ok layout.elements.length) := by
  have made := prepareConnector_made prepared
  have marks := ((Marks.refl layout).markRight connector.start.attachment).markRight
    connector.finish.attachment
  simp only [addConnector, prepared]
  refine push_addition (marks.congr ?_) ?free
  case free =>
    rw [Element.id, made.id]
    exact made.free
  intro place side tip
  cases side with
  | left => simp [Element.marks]
  | right => simp [Element.marks, or_and_right, exists_or]

theorem add_refused {spec : ElementSpec K} {failure : Failure K}
    (failed : layout.prepare spec = .error failure) :
    layout.add spec = (layout, .error failure) := by
  cases spec with
  | line spec =>
      cases prepared : layout.prepareLine spec with
      | error _ =>
          rw [prepare, prepared] at failed
          obtain rfl := Except.error.inj failed
          simp only [add, addLine, prepared]
      | ok line => simp [prepare, prepared, Except.map] at failed
  | connector spec =>
      cases prepared : layout.prepareConnector spec with
      | error _ =>
          rw [prepare, prepared] at failed
          obtain rfl := Except.error.inj failed
          simp only [add, addConnector, prepared]
      | ok connector => simp [prepare, prepared, Except.map] at failed

theorem add_admitted {spec : ElementSpec K} {element : Element K}
    (done : layout.prepare spec = .ok element) :
    element.id = spec.id ∧ ∃ next, layout.Addition element next ∧
      layout.add spec = (next, .ok layout.elements.length) := by
  cases spec with
  | line spec =>
      obtain ⟨line, prepared, rfl⟩ := map_eq_ok.mp done
      exact ⟨(prepareLine_made prepared).id, addLine_addition prepared⟩
  | connector spec =>
      obtain ⟨connector, prepared, rfl⟩ := map_eq_ok.mp done
      exact ⟨(prepareConnector_made prepared).id, addConnector_addition prepared⟩

/-- An element that cannot be prepared is refused and changes nothing. Any other is added: its
registration does not fail once marks have been set. -/
theorem add_atomic (layout : Layout K) (spec : ElementSpec K) :
    (∃ failure, layout.prepare spec = .error failure ∧
      layout.add spec = (layout, .error failure)) ∨
    ∃ element next, layout.prepare spec = .ok element ∧ element.id = spec.id ∧
      layout.Addition element next ∧ layout.add spec = (next, .ok layout.elements.length) := by
  cases prepared : layout.prepare spec with
  | error failure => exact Or.inl ⟨failure, rfl, add_refused prepared⟩
  | ok element =>
      obtain ⟨named, next, addition, added⟩ := add_admitted prepared
      exact Or.inr ⟨element, next, rfl, named, addition, added⟩

/-- A line that starts where another ends sets the mark of that end, and no other. -/
example :
    let guide : LineSpec ℚ := .between sampleGuide ⟨0, 0⟩ ⟨30, 0⟩
    let atEnd : PointSpec ℚ := ⟨none, none, none, some "a", .finish, none, none, none⟩
    let first := ((Layout.empty none).add (.line { guide with id := some "a" })).1
    let second := first.add
      (.line { LineSpec.between sampleGuide ⟨0, 0⟩ ⟨60, 0⟩ with start := atEnd })
    let marks := second.1.lines.map fun entry =>
      ((entry.2.start.left, entry.2.start.right), entry.2.finish.left, entry.2.finish.right)
    second.2.toOption = some 1 ∧
      marks = [((false, false), false, true), ((false, false), false, false)] := by
  decide +kernel

end Add

end Layout

end Waveguide
