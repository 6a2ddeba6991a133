import Mathlib
import Waveguide.Proofs.Displacement
import Waveguide.Proofs.Fittings
import Waveguide.Proofs.Tiles

/-!
How connectors are drawn: a channel from the tip of one line up to the tip of another, between two
caps. Later operations may cut the lines, but they leave the three blocks where they are, or move them
with the whole layout.
-/

namespace Waveguide

def Block.shift (block : Block ℚ) (offset : Point ℚ) : Block ℚ :=
  { block with
    left := block.left + offset.x
    right := block.right + offset.x
    bottom := block.bottom + offset.y
    top := block.top + offset.y }

namespace Connector

/-- The three blocks between a point of one line and a point of another. The first point may lie
above the second one within the tolerance, and lines may have no width. -/
structure Bridges (connector : Connector ℚ) (startLine finishLine : Line ℚ)
    (start finish : Endpoint ℚ) (low channel high : Block ℚ) : Prop where
  sides : ∀ block ∈ [high, channel, low],
    block.left = start.x ∧ block.right = start.x + connector.property.width
  bottom : channel.bottom = start.y - startLine.property.width / 2
  top : channel.top = finish.y + finishLine.property.width / 2
  lower : low.top = channel.bottom
  upper : channel.top = high.bottom
  caps : 0 ≤ low.size.y ∧ 0 ≤ high.size.y
  tall : (startLine.property.width + finishLine.property.width) / 2 - Scalar.tolerance ≤
    channel.size.y
  rising : start.y ≤ finish.y → 0 ≤ channel.size.y

variable {connector : Connector ℚ} {startLine finishLine : Line ℚ} {start finish : Endpoint ℚ}

theorem Bridges.wide {low channel high : Block ℚ}
    (bridges : connector.Bridges startLine finishLine start finish low channel high)
    (width : 0 ≤ connector.property.width) : ∀ block ∈ [high, channel, low], 0 ≤ block.size.x := by
  intro block member
  obtain ⟨left, right⟩ := bridges.sides block member
  rw [Block.size, left, right]
  linarith

theorem Bridges.parted {low channel high : Block ℚ}
    (bridges : connector.Bridges startLine finishLine start finish low channel high)
    (rises : 0 ≤ channel.size.y) : [high, channel, low].Pairwise Block.Parted := by
  obtain ⟨lowRises, highRises⟩ := bridges.caps
  have tall : ∀ block ∈ [high, channel, low], 0 ≤ block.size.y := by
    simpa using ⟨highRises, rises, lowRises⟩
  exact Block.Stacked.parted ⟨bridges.sides, fun block member => sub_nonneg.mp (tall block member),
    rfl, bridges.lower, bridges.upper, rfl⟩

/-- A connector whose tips lie half the width of its lines below and above their points. -/
structure Rests (connector : Connector ℚ) (startLine finishLine : Line ℚ)
    (start finish : Endpoint ℚ) : Prop where
  middle : connector.start.x = start.x + connector.property.width / 2
  bottom : connector.start.y = start.y - startLine.property.width / 2
  top : connector.finish.y = finish.y + finishLine.property.width / 2
  order : start.y ≤ finish.y + Scalar.tolerance

theorem Rests.bridges (rests : connector.Rests startLine finishLine start finish)
    (startValid : startLine.property.Valid) (finishValid : finishLine.property.Valid) :
    ∃ low channel high, connector.blocks startLine finishLine = [low, channel, high] ∧
      connector.Bridges startLine finishLine start finish low channel high := by
  have half : (0.5 : ℚ) * connector.property.width = connector.property.width / 2 := by
    norm_num
    ring
  have startReach : 0 ≤ startLine.reach := add_nonneg startValid.padding startValid.depth
  have finishReach : 0 ≤ finishLine.reach := add_nonneg finishValid.padding finishValid.depth
  have middle := rests.middle
  have bottom := rests.bottom
  have top := rests.top
  have order := rests.order
  have startWidth := startValid.width
  have finishWidth := finishValid.width
  have left : connector.start.x - connector.property.width / 2 = start.x := by linarith
  have right : connector.start.x + connector.property.width / 2 =
      start.x + connector.property.width := by linarith
  refine ⟨_, _, _, rfl, ?_⟩
  simp only [half, left, right]
  constructor
  case sides => simp
  case bottom => exact bottom
  case top => exact top
  case lower => rfl
  case upper => rfl
  case caps =>
    simp only [Block.size]
    constructor
    · linarith
    · linarith
  case tall =>
    simp only [Block.size]
    linarith
  case rising =>
    intro level
    simp only [Block.size]
    linarith

theorem blocks_displaced {offset : Point ℚ} {moved : Connector ℚ} {newStart newFinish : Line ℚ}
    (displaced : connector.Displaced offset moved) (start : startLine.Displaced offset newStart)
    (finish : finishLine.Displaced offset newFinish) :
    moved.blocks newStart newFinish =
      (connector.blocks startLine finishLine).map (·.shift offset) := by
  have x := congrArg Point.x (displaced.position .start)
  have bottom := congrArg Point.y (displaced.position .start)
  have top := congrArg Point.y (displaced.position .finish)
  simp only [Element.tip, Point.add] at x bottom top
  simp only [blocks, List.map_cons, List.map_nil, Block.shift, Endpoint.x, Endpoint.y, Line.reach,
    displaced.property, displaced.elevation, start.property, finish.property, x, bottom, top,
    sub_add_eq_add_sub, add_right_comm]

end Connector

namespace Layout

def Links (layout : Layout ℚ) (endpoint : Endpoint ℚ) (line : Line ℚ) (point : Endpoint ℚ) :
    Prop :=
  ∃ attachment, endpoint.attachment = some attachment ∧
    layout.line? attachment.target = some line ∧ point = (Element.line line).tip attachment.tip

/-- The layouts that later operations make of one, failed ones included. -/
inductive Later (layout : Layout ℚ) : Layout ℚ → Prop
  | refl : Later layout layout
  | add {other : Layout ℚ} (spec : ElementSpec ℚ) :
      Later layout other → Later layout (other.add spec).1
  | center {other : Layout ℚ} : Later layout other → Later layout other.center
  | settle {other : Layout ℚ} : Later layout other → Later layout other.settle.1

variable {layout next other : Layout ℚ}

theorem displaced_add (layout : Layout ℚ) (spec : ElementSpec ℚ) :
    layout.Displaced Point.origin (layout.add spec).1 := by
  cases prepared : layout.prepare spec with
  | error failure =>
      rw [add_refused prepared]
      exact .refl layout
  | ok element =>
      obtain ⟨_, next, addition, added⟩ := add_admitted prepared
      rw [added]
      exact addition.displaced

theorem Later.displaced {thickness : Option ℚ} (reached : layout.Reached thickness)
    (later : layout.Later other) :
    other.Reached thickness ∧ ∃ offset, layout.Displaced offset other := by
  induction later with
  | refl => exact ⟨reached, _, .refl layout⟩
  | add spec _ ih =>
      obtain ⟨still, offset, before⟩ := ih
      exact ⟨still.add spec, offset, before.still (displaced_add _ spec)⟩
  | @center other _ ih =>
      obtain ⟨still, offset, before⟩ := ih
      obtain ⟨more, moved⟩ := other.displaced_center
      exact ⟨.center still, _, before.trans moved⟩
  | settle _ ih =>
      obtain ⟨still, offset, before⟩ := ih
      obtain ⟨cuts, run, _⟩ := (settle_ended still.consistent.allSound).outcome
      exact ⟨.settle still, offset, before.still (displaced_settling run)⟩

theorem Links.attachedLine {endpoint point : Endpoint ℚ} {line : Line ℚ}
    (links : layout.Links endpoint line point) :
    Program.attachedLine layout endpoint = .ok line := by
  obtain ⟨attachment, attached, found, _⟩ := links
  simp only [Program.attachedLine, attached, Option.bind_some, found]

theorem Links.displaced {endpoint moved point : Endpoint ℚ} {line : Line ℚ}
    (links : layout.Links endpoint line point) {offset : Point ℚ}
    (displaced : layout.Displaced offset other) (same : moved.attachment = endpoint.attachment) :
    ∃ now point, other.Links moved now point ∧ line.Displaced offset now := by
  obtain ⟨attachment, attached, found, _⟩ := links
  obtain ⟨element, placed, along⟩ := displaced _ _ (line?_eq_some_iff.mp found)
  cases along with
  | @line _ now known =>
      exact ⟨now, _, ⟨attachment, same.trans attached, line?_eq_some_iff.mpr placed, rfl⟩, known⟩

theorem elementBlocks_connector {connector : Connector ℚ} {startLine finishLine : Line ℚ}
    {start finish : Endpoint ℚ} (first : layout.Links connector.start startLine start)
    (last : layout.Links connector.finish finishLine finish) :
    Program.elementBlocks layout (.connector connector) =
      .ok (connector.blocks startLine finishLine) := by
  simp only [Program.elementBlocks, first.attachedLine, last.attachedLine]
  rfl

theorem elementBlocks_displaced {offset : Point ℚ} (displaced : layout.Displaced offset other)
    {place : Nat} {connector : Connector ℚ} {startLine finishLine : Line ℚ}
    {start finish : Endpoint ℚ} (found : layout.elements[place]? = some (.connector connector))
    (first : layout.Links connector.start startLine start)
    (last : layout.Links connector.finish finishLine finish) :
    ∃ moved, other.elements[place]? = some (.connector moved) ∧
      connector.Displaced offset moved ∧
      Program.elementBlocks other (.connector moved) =
        .ok ((connector.blocks startLine finishLine).map (·.shift offset)) := by
  obtain ⟨element, placed, along⟩ := displaced place _ found
  cases along with
  | @connector _ moved known =>
      obtain ⟨_, _, firstNow, firstMoved⟩ := first.displaced displaced (known.attachment .start)
      obtain ⟨_, _, lastNow, lastMoved⟩ := last.displaced displaced (known.attachment .finish)
      refine ⟨moved, placed, known, ?_⟩
      rw [elementBlocks_connector firstNow lastNow,
        Connector.blocks_displaced known firstMoved lastMoved]

theorem Addition.links {element : Element ℚ} (addition : layout.Addition element next) {id : String}
    {tip : Tip} {position : Point ℚ} {attachment : Attachment ℚ}
    (resolved : layout.connectorTip id tip = .ok (position, some attachment)) :
    ∃ line point, (∀ endpoint, endpoint.attachment = some attachment →
        next.Links endpoint line point) ∧
      attachment.width = line.property.width ∧ point.position = position := by
  obtain ⟨line, found, width, there⟩ := connectorTip_joins resolved
  obtain ⟨new, placed, marked⟩ := addition.earlier _ _ (line?_eq_some_iff.mp found)
  cases marked.displaced with
  | @line _ now known =>
      have same := congrArg Endpoint.position (marked.tip attachment.tip)
      refine ⟨now, (Element.line now).tip attachment.tip, fun endpoint attached => ?_, ?_, ?_⟩
      · exact ⟨attachment, attached, line?_eq_some_iff.mpr placed, rfl⟩
      · rw [width, known.property]
      · rw [there]
        exact same

theorem addConnector_rests {spec : ConnectorSpec ℚ} {handle : Nat}
    (added : layout.addConnector spec = (next, .ok handle)) :
    ∃ connector startLine finishLine start finish,
      next.elements[handle]? = some (.connector connector) ∧ connector.property = spec.property ∧
      next.Links connector.start startLine start ∧
      next.Links connector.finish finishLine finish ∧
      connector.Rests startLine finishLine start finish := by
  cases prepared : layout.prepareConnector spec with
  | error failure => simp [Layout.addConnector, prepared] at added
  | ok connector =>
      obtain ⟨result, addition, same⟩ := addConnector_addition prepared
      obtain ⟨rfl, handled⟩ := Prod.mk.inj (same.symm.trans added)
      obtain rfl := Except.ok.inj handled
      obtain ⟨_, _, start, first, finish, last, _, started, finished, rising, rfl⟩ :=
        prepareConnector_ok prepared
      obtain ⟨startLine, startPoint, startLinks, startWidth, rfl⟩ := addition.links started
      obtain ⟨finishLine, finishPoint, finishLinks, finishWidth, rfl⟩ := addition.links finished
      have half : ∀ width : ℚ, (0.5 : ℚ) * width = width / 2 := by
        intro width
        norm_num
        ring
      refine ⟨_, startLine, finishLine, startPoint, finishPoint, addition.last, rfl,
        startLinks _ rfl, finishLinks _ rfl, ?_⟩
      rw [startWidth, finishWidth]
      simp only [half]
      exact ⟨rfl, rfl, rfl, not_lt.mp rising⟩

/-- A connector that is accepted is drawn as a channel between caps, from half the width of its
start line below its start point to half the width of its end line above its end point. Its blocks
stay as they are, whatever is done to the layout after that. -/
theorem connector_bridges {thickness : Option ℚ} {spec : ConnectorSpec ℚ} {handle : Nat}
    (reached : layout.Reached thickness)
    (added : layout.addConnector spec = (next, .ok handle)) :
    ∃ connector startLine finishLine start finish low channel high,
      next.elements[handle]? = some (.connector connector) ∧
      connector.property = spec.property ∧
      next.Links connector.start startLine start ∧
      next.Links connector.finish finishLine finish ∧
      Program.elementBlocks next (.connector connector) = .ok [low, channel, high] ∧
      connector.Bridges startLine finishLine start finish low channel high ∧
      (0 ≤ connector.property.width → ∀ block ∈ [high, channel, low], 0 ≤ block.size.x) ∧
      (0 ≤ channel.size.y → [high, channel, low].Pairwise Block.Parted) ∧
      ∀ later state cuts, next.Later later → Settling later cuts state →
        ∃ offset moved, state.elements[handle]? = some (.connector moved) ∧
          connector.Displaced offset moved ∧
          Program.elementBlocks state (.connector moved) =
            .ok ([low, channel, high].map (·.shift offset)) := by
  have reachedNext : next.Reached thickness := by
    have admitted : (layout.addConnector spec).1 = next := by rw [added]
    rw [← admitted]
    exact .connector spec reached
  obtain ⟨connector, startLine, finishLine, start, finish, placed, property, first, last, rests⟩ :=
    addConnector_rests added
  have valid : ∀ {endpoint line point}, next.Links endpoint line point → line.property.Valid := by
    rintro endpoint line point ⟨_, _, found, _⟩
    exact (reachedNext.consistent.line found).property
  obtain ⟨low, channel, high, blocks, bridges⟩ := rests.bridges (valid first) (valid last)
  refine ⟨connector, startLine, finishLine, start, finish, low, channel, high, placed, property,
    first, last, ?_, bridges, bridges.wide, bridges.parted, ?_⟩
  · rw [elementBlocks_connector first last, blocks]
  · intro later state cuts after run
    obtain ⟨_, offset, displaced⟩ := after.displaced reachedNext
    have moved := displaced.still (displaced_settling run)
    rw [← blocks]
    exact ⟨offset, elementBlocks_displaced moved placed first last⟩

def crossing (width : ℚ) : ConnectorSpec ℚ :=
  ⟨some "c", none, tipOf "a" .finish, tipOf "b" .finish, ⟨width, .dielectric 1⟩⟩

def crossedLines : Layout ℚ :=
  ofLines [namedLine "a" ⟨0, 0⟩ ⟨30, 0⟩, namedLine "b" ⟨10, 7⟩ ⟨50, 7⟩]

theorem crossedLines_bridged :
    crossedLines.Reached none ∧ ∃ next, crossedLines.addConnector (crossing 2) = (next, .ok 2) ∧
      next.center.settle.1.lines.map (fun entry => (entry.1, entry.2.parent)) =
        [(0, none), (1, none), (3, some 0), (4, some 1)] ∧
      ∃ connector startLine finishLine start finish low channel high,
        next.elements[2]? = some (.connector connector) ∧
        Program.elementBlocks next (.connector connector) = .ok [low, channel, high] ∧
        connector.Bridges startLine finishLine start finish low channel high ∧
        ∃ offset moved, next.center.settle.1.elements[2]? = some (.connector moved) ∧
          connector.Displaced offset moved ∧
          Program.elementBlocks next.center.settle.1 (.connector moved) =
            .ok ([low, channel, high].map (·.shift offset)) := by
  have reached : crossedLines.Reached none := .line _ (.line _ .empty)
  have accepted : (crossedLines.addConnector (crossing 2)).2 = .ok 2 :=
    ok_of_toOption (by decide +kernel)
  have added : crossedLines.addConnector (crossing 2) =
      ((crossedLines.addConnector (crossing 2)).1, .ok 2) :=
    Prod.ext rfl accepted
  obtain ⟨connector, startLine, finishLine, start, finish, low, channel, high, placed, _, _, _, drawn,
    bridges, _, _, stays⟩ := connector_bridges reached added
  obtain ⟨offset, moved, there, displaced, drawnNow⟩ :=
    stays _ _ _ (.settle (.center .refl)) .start
  exact ⟨reached, _, added, by decide +kernel, connector, startLine, finishLine, start, finish, low,
    channel, high, placed, drawn, bridges, offset, moved, there, displaced, drawnNow⟩

def slippedLines : Layout ℚ :=
  let line (id : String) (y : ℚ) : LineSpec ℚ :=
    { LineSpec.between { sampleGuide with width := 0 } ⟨0, y⟩ ⟨30, y⟩ with id := some id }
  ofLines [line "a" 0.0000005, line "b" 0]

def channelSizes (layout : Layout ℚ) : List (ℚ × ℚ) :=
  (layout.elements.filter fun element => element.kind = .connector).flatMap fun element =>
    (Program.drawn layout element).map fun block => (block.size.x, block.size.y)

/-- Between lines without width a channel may be turned over, and a width is not checked. -/
theorem crossing_degenerate :
    (slippedLines.Reached none ∧ (slippedLines.addConnector (crossing 2)).2.toOption = some 2 ∧
      (slippedLines.addConnector (crossing 2)).1.channelSizes =
        [(2, 2), (2, -1 / 2000000), (2, 2)]) ∧
    crossedLines.Reached none ∧ (crossedLines.addConnector (crossing (-2))).2.toOption = some 2 ∧
      (crossedLines.addConnector (crossing (-2))).1.channelSizes = [(-2, 2), (-2, 11), (-2, 2)] := by
  refine ⟨⟨.line _ (.line _ .empty), ?_, ?_⟩, .line _ (.line _ .empty), ?_, ?_⟩
  · decide +kernel
  · decide +kernel
  · decide +kernel
  · decide +kernel

end Layout

end Waveguide
