import Waveguide.Reference

/-!
The layout of a structure: its elements in the order of their declaration. Elements are added with
absolute coordinates, and the whole is then moved so that its bounds are centered. Nothing is ever
removed. An operation that can fail returns the layout it leaves behind beside its result.
-/

namespace Waveguide

structure Layout (K : Type) where
  elements : List (Element K)
  index : IdIndex
  bounds : Bounds K
  thickness : Option K

variable {K : Type} [Scalar K]

/-- A line attached to the lower end of a connector lies above that point, one attached to the upper
end below it. -/
def verticalSign : Tip → K
  | .finish => -1
  | .start => 1

def LineProperty.validate (property : LineProperty K) : Except (Failure K) Unit :=
  let grooves := property.grooves
  if ¬ 0 < grooves.period then .error (.invalidProperty (.period grooves.period))
  else if grooves.width < 0 ∨ grooves.period < grooves.width then
    .error (.invalidProperty (.grooveWidth grooves.width grooves.period))
  else if property.width < 0 ∨ grooves.depth < 0 ∨ property.padding < 0 then
    .error (.invalidProperty .negative)
  else .ok ()

namespace Layout

def empty (thickness : Option K) : Layout K := ⟨[], IdIndex.empty, Bounds.zero, thickness⟩

def find? (layout : Layout K) (id : String) : Option Nat := layout.index.find? id

def line? (layout : Layout K) (handle : Nat) : Option (Line K) :=
  layout.elements[handle]?.bind Element.asLine?

def linesFrom (first : Nat) : List (Element K) → List (Nat × Line K)
  | [] => []
  | .line line :: elements => (first, line) :: linesFrom (first + 1) elements
  | .connector _ :: elements => linesFrom (first + 1) elements

def lines (layout : Layout K) : List (Nat × Line K) := linesFrom 0 layout.elements

def resolver (layout : Layout K) : Resolver K := ⟨layout.elements, layout.index⟩

def isInside (layout : Layout K) (point : Point K) : Bool := layout.bounds.contains point

def checkId (layout : Layout K) (id : Option String) : Except (Failure K) Unit :=
  match id with
  | some id => if layout.index.contains id then .error (.duplicateId id) else .ok ()
  | none => .ok ()

def push (layout : Layout K) (element : Element K) : Layout K × Except (Failure K) Nat :=
  let handle := layout.elements.length
  let elements := layout.elements ++ [element]
  match element.id with
  | none => ({ layout with elements }, .ok handle)
  | some id =>
      match layout.index.register id handle with
      | .error failure => (layout, .error failure)
      | .ok index => ({ layout with elements, index }, .ok handle)

def modifyTip (layout : Layout K) (attachment : Attachment K) (change : Endpoint K → Endpoint K) :
    Layout K :=
  { layout with
    elements := layout.elements.modify attachment.target fun element =>
      element.modifyTip change attachment.tip }

def markRight (layout : Layout K) : Option (Attachment K) → Layout K
  | some attachment => layout.modifyTip attachment Endpoint.markRight
  | none => layout

def markLeft (layout : Layout K) : Option (Attachment K) → Layout K
  | some attachment => layout.modifyTip attachment Endpoint.markLeft
  | none => layout

/-- A line end that is attached to a connector lies on the connector's edge (`sideways` is half its
width to the right or left), with the line's channel flush with the end of the connector's. -/
def flush (sideways : K → K) (width : K) (point : Resolved K) : Resolved K :=
  match point.attachment with
  | some attachment =>
      if attachment.kind = .connector then
        { point with
          position :=
            ⟨point.position.x + sideways (0.5 * attachment.width),
              point.position.y + 0.5 * width * verticalSign attachment.tip⟩ }
      else point
  | none => point

def lineStart (layout : Layout K) (spec : LineSpec K) : Except (Failure K) (Resolved K) := do
  let start ← layout.resolver.linePoint spec.start Point.origin none
  .ok (flush id spec.property.width start)

/-- The end of a line whose start is known. One given in periods lies to the right of the start,
at the same height. -/
def lineFinish (layout : Layout K) (spec : LineSpec K) (start : Point K) :
    Except (Failure K) (Resolved K) := do
  let finish ← match spec.finish.periods with
    | some periods =>
        let offset : Point K := ⟨spec.finish.x.getD 0, spec.finish.y.getD 0⟩
        let x := start.x + offset.norm + periods * spec.property.grooves.period
        .ok ⟨⟨x, start.y⟩, none⟩
    | none => layout.resolver.linePoint spec.finish start (some ⟨spec.id, start⟩)
  .ok (flush (fun half => -half) spec.property.width finish)

def prepareLine (layout : Layout K) (spec : LineSpec K) : Except (Failure K) (Line K) := do
  layout.checkId spec.id
  spec.property.validate
  let start ← layout.lineStart spec
  let finish ← layout.lineFinish spec start.position
  if finish.position.x < start.position.x - Scalar.tolerance then
    .error (.lineEndsOrder start.position.x finish.position.x)
  else if Scalar.tolerance < Scalar.abs (finish.position.y - start.position.y) then
    .error (.diagonalLine start.position.y finish.position.y)
  else
    .ok {
      id := spec.id
      comment := spec.comment
      start := Endpoint.attached start.position start.attachment
      finish := Endpoint.attached finish.position finish.attachment
      property := spec.property
      skip := normalizeSkip (spec.start.skip.getD 0)
      clearance := Clearance.ofProperty spec.property
      elevation := layout.thickness
      parent := none
    }

def addLine (layout : Layout K) (spec : LineSpec K) : Layout K × Except (Failure K) Nat :=
  match layout.prepareLine spec with
  | .error failure => (layout, .error failure)
  | .ok line =>
      let marked := (layout.markRight line.start.attachment).markLeft line.finish.attachment
      marked.push (.line line)

def connectorTip (layout : Layout K) (id : String) (tip : Tip) :
    Except (Failure K) (Point K × Option (Attachment K)) := do
  let resolved ← layout.resolver.attach id tip
  .ok (resolved.position, resolved.attachment.filter fun attachment => attachment.kind = .line)

/-- The connector a description asks for. Its channel reaches from the bottom of the start line to
the top of the end line. -/
def prepareConnector (layout : Layout K) (spec : ConnectorSpec K) :
    Except (Failure K) (Connector K) := do
  layout.checkId spec.id
  match spec.start.attachedTo, spec.finish.attachedTo with
  | some startId, some finishId =>
      let (start, startAttachment) ← layout.connectorTip startId spec.start.tip
      let (finish, finishAttachment) ← layout.connectorTip finishId spec.finish.tip
      match startAttachment, finishAttachment with
      | some startAttachment, some finishAttachment =>
          let x := start.x + 0.5 * spec.property.width
          let startY := start.y - 0.5 * startAttachment.width
          let finishY := finish.y + 0.5 * finishAttachment.width
          if finish.y + Scalar.tolerance < start.y then
            .error (.connectorOrder start.y finish.y)
          else
            .ok {
              id := spec.id
              comment := spec.comment
              start := Endpoint.attached ⟨x, startY⟩ (some startAttachment)
              finish := Endpoint.attached ⟨x, finishY⟩ (some finishAttachment)
              property := spec.property
              elevation := layout.thickness
            }
      | _, _ => .error .detachedConnector
  | _, _ => .error .detachedConnector

def addConnector (layout : Layout K) (spec : ConnectorSpec K) :
    Layout K × Except (Failure K) Nat :=
  match layout.prepareConnector spec with
  | .error failure => (layout, .error failure)
  | .ok connector =>
      let marked :=
        (layout.markRight connector.start.attachment).markRight connector.finish.attachment
      marked.push (.connector connector)

def add (layout : Layout K) : ElementSpec K → Layout K × Except (Failure K) Nat
  | .line spec => layout.addLine spec
  | .connector spec => layout.addConnector spec

def includeLine (bounds : Bounds K) (line : Line K) : Bounds K :=
  let low := Scalar.minimum line.start.y line.finish.y - line.clearance.softDown
  let high := Scalar.maximum line.start.y line.finish.y + line.clearance.softUp
  bounds.cover ⟨line.minX, low⟩ ⟨line.maxX, high⟩

def boundsOf (lines : List (Line K)) : Bounds K :=
  match lines with
  | [] => Bounds.zero
  | first :: _ => lines.foldl includeLine ⟨first.start.position, first.start.position⟩

def center (layout : Layout K) : Layout K :=
  let bounds := boundsOf (layout.elements.filterMap Element.asLine?)
  let offset : Point K := ⟨-bounds.center.x, -bounds.center.y⟩
  { layout with
    elements := layout.elements.map (·.shift offset)
    bounds := bounds.shift offset }

end Layout

end Waveguide
