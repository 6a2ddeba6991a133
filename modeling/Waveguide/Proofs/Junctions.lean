import Mathlib
import Waveguide.Proofs.Consistency
import Waveguide.Proofs.Displacement
import Waveguide.Proofs.Severance

/-!
Lines that are attached to connectors. Their ends are placed at the sides of the connectors, with
the channels flush, and stay there: all that is placed moves together, and an end that is cut off
goes with what it was attached to.
-/

namespace Waveguide

namespace Connector

/-- The side of a connector where tips of lines are attached to it. Lines lie to its right with their
starts and to its left with their ends. -/
def side (connector : Connector ℚ) : Tip → ℚ
  | .start => connector.start.x + connector.property.width / 2
  | .finish => connector.start.x - connector.property.width / 2

/-- A tip of a line at the side of a connector, with an edge of the line's channel at an end of the
connector's. -/
structure Meets (connector : Connector ℚ) (line : Line ℚ) (tip point : Tip) : Prop where
  upright : connector.start.x = connector.finish.x
  side : ((Element.line line).tip tip).x = connector.side tip
  bottom : point = .start →
    ((Element.line line).tip tip).y - line.property.width / 2 = connector.start.y
  top : point = .finish →
    ((Element.line line).tip tip).y + line.property.width / 2 = connector.finish.y

end Connector

def Element.Seated (layout : Layout ℚ) : Element ℚ → Prop
  | .connector placed => placed.start.x = placed.finish.x
  | .line placed => ∀ tip attachment,
      ((Element.line placed).tip tip).attachment = some attachment →
        ∃ target, layout.elements[attachment.target]? = some target ∧
          attachment.kind = target.kind ∧
          ∀ joined, target = .connector joined → joined.Meets placed tip attachment.tip

section Displaced

variable {offset : Point ℚ}

theorem Connector.Meets.displaced {connector moved : Connector ℚ} {line new : Line ℚ}
    {tip point : Tip} {attachment : Attachment ℚ} (meets : connector.Meets line tip point)
    (known : connector.Displaced offset moved) (line' : line.Displaced offset new)
    (attached : ((Element.line new).tip tip).attachment = some attachment) :
    moved.Meets new tip point := by
  have start : moved.start.position = connector.start.position.add offset := known.position .start
  have finish : moved.finish.position = connector.finish.position.add offset :=
    known.position .finish
  have here := (line'.attached tip attachment attached).2
  have upright := meets.upright
  have side := meets.side
  have bottom := meets.bottom
  have top := meets.top
  simp only [Endpoint.x, Endpoint.y] at upright side bottom top
  refine ⟨?_, ?_, ?_, ?_⟩
  · simp only [Endpoint.x, start, finish, Point.add, upright]
  · simp only [Endpoint.x, here, Point.add, side]
    cases tip with
    | start => simp only [Connector.side, Endpoint.x, known.property, start, Point.add]; ring
    | finish => simp only [Connector.side, Endpoint.x, known.property, start, Point.add]; ring
  · intro lower
    simp only [Endpoint.y, here, start, line'.property, Point.add, ← bottom lower]
    ring
  · intro upper
    simp only [Endpoint.y, here, finish, line'.property, Point.add, ← top upper]
    ring

theorem Element.Displaced.kind {old new : Element ℚ} (moved : old.Displaced offset new) :
    new.kind = old.kind := by
  cases moved with
  | line known => rfl
  | connector known => rfl

theorem Element.Seated.displaced {layout other : Layout ℚ} {element new : Element ℚ}
    (seated : element.Seated layout) (displaced : layout.Displaced offset other)
    (moved : element.Displaced offset new) : new.Seated other := by
  cases moved with
  | @connector before after known =>
      have start := congrArg Point.x (known.position .start)
      have finish := congrArg Point.x (known.position .finish)
      exact start.trans ((congrArg (· + offset.x) seated).trans finish.symm)
  | @line before after known =>
      intro tip attachment attached
      obtain ⟨target, there, kind, meets⟩ :=
        seated tip attachment (known.attached tip attachment attached).1
      obtain ⟨now, placed, along⟩ := displaced _ target there
      refine ⟨now, placed, kind.trans along.kind.symm, ?_⟩
      rintro connector rfl
      cases along with
      | connector shifted => exact (meets _ rfl).displaced shifted known attached

end Displaced

namespace Layout

def Flush (layout : Layout ℚ) : Prop := ∀ element ∈ layout.elements, element.Seated layout

section Placing

variable {layout : Layout ℚ}

theorem flush_position {sideways : ℚ → ℚ} {width : ℚ} {point : Resolved ℚ}
    {attachment : Attachment ℚ} (attached : point.attachment = some attachment)
    (kind : attachment.kind = .connector) :
    (flush sideways width point).position =
      ⟨point.position.x + sideways (0.5 * attachment.width),
        point.position.y + 0.5 * width * verticalSign attachment.tip⟩ := by
  simp only [flush, attached, kind, if_true]

theorem flush_meets (seated : layout.Flush) {spec : PointSpec ℚ} {fallback : Point ℚ}
    {own : Option (OwnStart ℚ)} {point : Resolved ℚ}
    (resolved : layout.resolver.linePoint spec fallback own = .ok point) {tip : Tip}
    {sideways : ℚ → ℚ} (outward : ∀ connector : Connector ℚ,
      connector.start.x + sideways (0.5 * connector.property.width) = connector.side tip)
    {line : Line ℚ} (placed : ((Element.line line).tip tip).position =
      (flush sideways line.property.width point).position)
    {attachment : Attachment ℚ}
    (attached : (flush sideways line.property.width point).attachment = some attachment) :
    ∃ target, layout.elements[attachment.target]? = some target ∧
      attachment.kind = target.kind ∧
      ∀ joined, target = .connector joined → joined.Meets line tip attachment.tip := by
  rw [flush_attachment] at attached
  obtain ⟨target, there, kind, width, position⟩ :=
    Resolver.linePoint_attached resolved attached
  refine ⟨target, there, kind, ?_⟩
  rintro joined rfl
  have upright : joined.start.x = joined.finish.x := seated _ (List.mem_of_getElem? there)
  rw [flush_position attached kind, position, width] at placed
  have x := congrArg Point.x placed
  have y := congrArg Point.y placed
  have half : (0.5 : ℚ) = 1 / 2 := by norm_num
  simp only at x y
  refine ⟨upright, ?_, ?_, ?_⟩
  · rw [Endpoint.x, x, ← outward]
    cases attachment.tip with
    | start => rfl
    | finish => exact congrArg (· + _) upright.symm
  · intro lower
    rw [lower] at y
    rw [Endpoint.y, y, half]
    simp only [verticalSign, Element.tip, Endpoint.y]
    ring
  · intro upper
    rw [upper] at y
    rw [Endpoint.y, y, half]
    simp only [verticalSign, Element.tip, Endpoint.y]
    ring

theorem prepareLine_seated (seated : layout.Flush) {spec : LineSpec ℚ} {line : Line ℚ}
    (prepared : layout.prepareLine spec = .ok line) : (Element.line line).Seated layout := by
  obtain ⟨start, finish, _, _, started, finished, _, _, rfl⟩ := prepareLine_ok prepared
  have half : (0.5 : ℚ) = 1 / 2 := by norm_num
  intro tip attachment attached
  cases tip with
  | start =>
      rw [lineStart_eq] at started
      obtain ⟨point, found, rfl⟩ := map_eq_ok.mp started
      refine flush_meets seated found ?_ rfl attached
      intro connector
      simp only [id, Connector.side, half]
      ring
  | finish =>
      rw [lineFinish_eq] at finished
      split at finished
      · obtain rfl := Except.ok.inj finished
        contradiction
      · obtain ⟨point, found, rfl⟩ := map_eq_ok.mp finished
        refine flush_meets seated found ?_ rfl attached
        intro connector
        simp only [Connector.side, half]
        ring

theorem prepareConnector_upright {spec : ConnectorSpec ℚ} {connector : Connector ℚ}
    (prepared : layout.prepareConnector spec = .ok connector) :
    connector.start.x = connector.finish.x := by
  obtain ⟨_, _, _, _, _, _, _, _, _, _, rfl⟩ := prepareConnector_ok prepared
  rfl

end Placing

namespace Flush

variable {layout : Layout ℚ}

theorem displaced (seated : layout.Flush) {offset : Point ℚ} {other : Layout ℚ}
    (displaced : layout.Displaced offset other)
    (new : ∀ (place : Nat) (element : Element ℚ), layout.elements.length ≤ place →
      other.elements[place]? = some element → element.Seated other) : other.Flush := by
  intro element member
  obtain ⟨place, found⟩ := List.mem_iff_getElem?.mp member
  rcases Nat.lt_or_ge place layout.elements.length with before | after
  · obtain ⟨moved, placed, along⟩ := displaced place _ (List.getElem?_eq_getElem before)
    obtain rfl := Option.some.inj (found.symm.trans placed)
    exact (seated _ (List.getElem_mem before)).displaced displaced along
  · exact new place element after found

theorem displaced_same (seated : layout.Flush) {offset : Point ℚ} {other : Layout ℚ}
    (displaced : layout.Displaced offset other)
    (same : other.elements.length = layout.elements.length) : other.Flush := by
  refine seated.displaced displaced fun place element after found => ?_
  have bound := (List.getElem?_eq_some_iff.mp found).1
  omega

theorem addition (seated : layout.Flush) {element : Element ℚ} {next : Layout ℚ}
    (addition : layout.Addition element next) (new : element.Seated layout) : next.Flush := by
  refine seated.displaced addition.displaced ?_
  intro place other after found
  have bound := (List.getElem?_eq_some_iff.mp found).1
  rw [addition.count] at bound
  obtain rfl : place = layout.elements.length := by omega
  obtain rfl := Option.some.inj (found.symm.trans addition.last)
  exact new.displaced addition.displaced (.refl _)

theorem addLine (seated : layout.Flush) (spec : LineSpec ℚ) : (layout.addLine spec).1.Flush := by
  cases prepared : layout.prepareLine spec with
  | error failure => simpa only [Layout.addLine, prepared] using seated
  | ok line =>
      obtain ⟨next, addition, added⟩ := addLine_addition prepared
      rw [added]
      exact seated.addition addition (prepareLine_seated seated prepared)

theorem addConnector (seated : layout.Flush) (spec : ConnectorSpec ℚ) :
    (layout.addConnector spec).1.Flush := by
  cases prepared : layout.prepareConnector spec with
  | error failure => simpa only [Layout.addConnector, prepared] using seated
  | ok connector =>
      obtain ⟨next, addition, added⟩ := addConnector_addition prepared
      rw [added]
      exact seated.addition addition (prepareConnector_upright prepared)

theorem center (seated : layout.Flush) : layout.center.Flush := by
  obtain ⟨offset, displaced⟩ := layout.displaced_center
  exact seated.displaced_same displaced layout.revision_center.length

theorem afterCut (seated : layout.Flush) {handle : Nat} {line : Line ℚ}
    (found : layout.line? handle = some line) (x : ℚ) :
    (layout.afterCut handle (line.leftPart x) (line.rightPart x handle)).Flush := by
  have bound := line?_bound found
  have displaced := displaced_afterCut found x
  refine seated.displaced displaced ?_
  intro place element after there
  rw [elements_afterCut _ _ bound] at there
  split at there
  · obtain rfl := Option.some.inj there
    have whole := seated _ (List.mem_of_getElem? (line?_eq_some_iff.mp found))
    exact whole.displaced displaced (.line (line.displaced_rightPart x handle))
  · rw [if_neg (by omega), List.getElem?_eq_none after] at there
    contradiction

theorem afterSplit (seated : layout.Flush) {upper lower : Nat} {up low : Line ℚ}
    (step : layout.SplitStep upper lower up low) :
    (layout.afterSplit upper lower up low).Flush := by
  refine seated.displaced_same (displaced_afterSplit step) ?_
  simp only [Layout.afterSplit, Layout.setLine, List.length_set]

theorem settling (seated : layout.Flush) {cuts : Nat} {state : Layout ℚ}
    (run : Settling layout cuts state) : state.Flush := by
  refine SettlingWith.along (motive := fun _ state => state.Flush) seated ?_ ?_ run
  · exact fun _ before step _ => before.afterCut step.found _
  · exact fun _ before step => before.afterSplit step

end Flush

theorem Reached.flush {thickness : Option ℚ} {layout : Layout ℚ}
    (reached : layout.Reached thickness) : layout.Flush := by
  induction reached with
  | empty => exact fun element impossible => absurd impossible List.not_mem_nil
  | line spec _ ih => exact ih.addLine spec
  | connector spec _ ih => exact ih.addConnector spec
  | center _ ih => exact ih.center
  | settle reached ih =>
      obtain ⟨cuts, run, _⟩ := (settle_ended reached.consistent.allSound).outcome
      exact ih.settling run

/-- Whatever has been done to a layout, its lines meet its connectors as they should, also while
conflicts are being settled. An end that is attached stays with the last piece of its line. -/
theorem junctions_flush {thickness : Option ℚ} {layout state : Layout ℚ} {cuts : Nat}
    (reached : layout.Reached thickness) (run : Settling layout cuts state) :
    state.Flush ∧ ∀ root original, layout.line? root = some original →
      ∃ pieces others last, layout.Severed state root original pieces ∧
        pieces = others ++ [last] ∧ last.2.finish = original.finish ∧
        ∀ piece ∈ others, piece.2.finish.attachment = none := by
  refine ⟨reached.flush.settling run, ?_⟩
  intro root original found
  obtain ⟨pieces, severed⟩ := reached.consistent.severed run found
  obtain ⟨others, last, split, ending, loose⟩ := severed.joined.finishes
  exact ⟨pieces, others, last, severed, split, ending, loose⟩

def portLayout : Layout ℚ :=
  let lines := ofLines [namedLine "a" ⟨0, 0⟩ ⟨30, 0⟩, namedLine "b" ⟨0, 14⟩ ⟨30, 14⟩]
  let joined := lines.addConnector
    ⟨some "c", none, tipOf "a" .start, tipOf "b" .start, ⟨2, .dielectric 1⟩⟩
  let port := joined.1.addLine { namedLine "e" ⟨-30, 0⟩ ⟨0, 0⟩ with finish := tipOf "c" .start }
  (port.1.addLine (.between sampleGuide ⟨-20, 7⟩ ⟨-10, 7⟩)).1

theorem reached_portLayout : portLayout.Reached none :=
  .line _ (.line _ (.connector _ (.line _ (.line _ .empty))))

theorem portLayout_flush :
    portLayout.Reached none ∧ ∃ cuts state original, Settling portLayout cuts state ∧
      state.lines.map (fun entry => (entry.2.parent, entry.2.finish.attachment.isSome)) =
        [(none, false), (none, false), (none, false), (none, false), (some 3, false),
          (some 5, true)] ∧
      portLayout.line? 3 = some original ∧ original.finish.attachment.isSome ∧ state.Flush ∧
      ∃ pieces others last, portLayout.Severed state 3 original pieces ∧
        pieces = others ++ [last] ∧ last.2.finish = original.finish ∧
        ∀ piece ∈ others, piece.2.finish.attachment = none := by
  have ended := settle_ended reached_portLayout.consistent.allSound
  obtain ⟨cuts, run, _⟩ := ended.outcome
  have there : (portLayout.line? 3).map (fun line => line.finish.attachment.isSome) =
      some true := by
    decide +kernel
  obtain ⟨original, found, attached⟩ := Option.map_eq_some_iff.mp there
  obtain ⟨seated, severed⟩ := junctions_flush reached_portLayout run
  exact ⟨reached_portLayout, cuts, _, original, run, by decide +kernel, found, attached, seated,
    severed 3 original found⟩

end Layout

end Waveguide
