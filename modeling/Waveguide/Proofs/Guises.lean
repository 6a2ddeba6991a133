import Mathlib
import Waveguide.Program
import Waveguide.Proofs.Lines
import Waveguide.Proofs.Mapped

/-!
Other guises of a layout. A guise changes its elements, but not where they stand nor what they are
made of: they are referred to, placed, centered, settled and drawn in whatever guise in the same
way.
-/

namespace Waveguide

/-- A change of lines and connectors that keeps what is asked for while a scene is built. It is the
same whether it is made before a line is moved, padded less or cut, or after. -/
structure Guise (K : Type) [Scalar K] where
  line : Line K → Line K
  connector : Connector K → Connector K
  line_id : ∀ self, (line self).id = self.id
  line_start : ∀ self, (line self).start.position = self.start.position
  line_finish : ∀ self, (line self).finish.position = self.finish.position
  line_property : ∀ self, (line self).property = self.property
  line_clearance : ∀ self, (line self).clearance = self.clearance
  line_blocks : ∀ self, (line self).blocks = self.blocks
  line_shift : ∀ self (offset : Point K),
    line { self with start := self.start.shift offset, finish := self.finish.shift offset } =
      { line self with
        start := (line self).start.shift offset
        finish := (line self).finish.shift offset }
  line_soften : ∀ self clearance, line { self with clearance } = { line self with clearance }
  line_leftPart : ∀ self x, line (self.leftPart x) = (line self).leftPart x
  line_rightPart : ∀ self x parent, line (self.rightPart x parent) = (line self).rightPart x parent
  connector_id : ∀ self, (connector self).id = self.id
  connector_start : ∀ self, (connector self).start.position = self.start.position
  connector_finish : ∀ self, (connector self).finish.position = self.finish.position
  connector_property : ∀ self, (connector self).property = self.property
  connector_elevation : ∀ self, (connector self).elevation = self.elevation
  connector_startAttachment : ∀ self,
    (connector self).start.attachment = self.start.attachment
  connector_finishAttachment : ∀ self,
    (connector self).finish.attachment = self.finish.attachment
  connector_shift : ∀ self (offset : Point K),
    connector { self with
        start := self.start.shift offset
        finish := self.finish.shift offset } =
      { connector self with
        start := (connector self).start.shift offset
        finish := (connector self).finish.shift offset }

def Layout.softenLower {K : Type} (layout : Layout K) (lower : Nat) (softUp : K) : Layout K :=
  match layout.line? lower with
  | some low => layout.setLine lower { low with clearance := { low.clearance with softUp } }
  | none => layout

namespace Guise

variable {K : Type} [Scalar K] (guise : Guise K)

def element : Element K → Element K
  | .line self => .line (guise.line self)
  | .connector self => .connector (guise.connector self)

def layout (self : Layout K) : Layout K := self.mapElements guise.element

theorem element_id (self : Element K) : (guise.element self).id = self.id := by
  cases self with
  | line self => exact guise.line_id self
  | connector self => exact guise.connector_id self

theorem element_kind (self : Element K) : (guise.element self).kind = self.kind := by
  cases self with
  | line self => rfl
  | connector self => rfl

theorem element_width (self : Element K) : (guise.element self).width = self.width := by
  cases self with
  | line self => exact congrArg LineProperty.width (guise.line_property self)
  | connector self => exact congrArg ConnectorProperty.width (guise.connector_property self)

theorem element_position (self : Element K) (tip : Tip) :
    ((guise.element self).tip tip).position = (self.tip tip).position := by
  cases self with
  | line self =>
      cases tip with
      | start => exact guise.line_start self
      | finish => exact guise.line_finish self
  | connector self =>
      cases tip with
      | start => exact guise.connector_start self
      | finish => exact guise.connector_finish self

theorem element_shift (self : Element K) (offset : Point K) :
    guise.element (self.shift offset) = (guise.element self).shift offset := by
  cases self with
  | line self => exact congrArg Element.line (guise.line_shift self offset)
  | connector self => exact congrArg Element.connector (guise.connector_shift self offset)

section Points

variable (self : Layout K)

theorem lookup (id : String) :
    (guise.layout self).resolver.lookup id =
      (self.resolver.lookup id).map fun found => (found.1, guise.element found.2) :=
  self.lookup_mapElements guise.element id

theorem push (element : Element K) :
    (guise.layout self).push (guise.element element) =
      (guise.layout (self.push element).1, (self.push element).2) :=
  self.push_mapElements guise.element (guise.element_id element)

theorem attach (id : String) (tip : Tip) :
    (guise.layout self).resolver.attach id tip = self.resolver.attach id tip := by
  rw [layout, Layout.attach_mapElements id tip guise.element_kind guise.element_width,
    Resolver.attach_eq]
  simp only [guise.element_position]

theorem connectorTip (id : String) (tip : Tip) :
    (guise.layout self).connectorTip id tip = self.connectorTip id tip := by
  rw [Layout.connectorTip_eq, Layout.connectorTip_eq, guise.attach]

theorem relative (id : String) (tip : Tip) (offset : Point K) :
    (guise.layout self).resolver.relative id tip offset =
      self.resolver.relative id tip offset := by
  rw [Resolver.relative_eq, Resolver.relative_eq, guise.lookup]
  cases self.resolver.lookup id with
  | error failure => rfl
  | ok found => simp only [Except.map, guise.element_position]

theorem linePoint (spec : PointSpec K) (fallback : Point K) (own : Option (OwnStart K)) :
    (guise.layout self).resolver.linePoint spec fallback own =
      self.resolver.linePoint spec fallback own := by
  simp only [Resolver.linePoint_eq, Resolver.reference, guise.attach, guise.relative]

theorem prepareLine (spec : LineSpec K) :
    (guise.layout self).prepareLine spec = self.prepareLine spec := by
  simp only [Layout.prepareLine, Layout.lineStart, Layout.lineFinish, guise.linePoint]
  rfl

theorem prepareConnector (spec : ConnectorSpec K) :
    (guise.layout self).prepareConnector spec = self.prepareConnector spec := by
  simp only [Layout.prepareConnector, guise.connectorTip]
  rfl

end Points

section Centering

theorem line_minX (self : Line K) : (guise.line self).minX = self.minX := by
  unfold Line.minX Endpoint.x
  rw [guise.line_start, guise.line_finish]

theorem line_maxX (self : Line K) : (guise.line self).maxX = self.maxX := by
  unfold Line.maxX Endpoint.x
  rw [guise.line_start, guise.line_finish]

theorem includeLine (bounds : Bounds K) (self : Line K) :
    Layout.includeLine bounds (guise.line self) = Layout.includeLine bounds self := by
  simp only [Layout.includeLine, Endpoint.y, guise.line_start, guise.line_finish,
    guise.line_clearance, guise.line_minX, guise.line_maxX]

theorem boundsOf (lines : List (Line K)) :
    Layout.boundsOf (lines.map guise.line) = Layout.boundsOf lines := by
  cases lines with
  | nil => rfl
  | cons first others =>
      simp only [List.map_cons, Layout.boundsOf, List.foldl_cons, List.foldl_map,
        guise.includeLine, guise.line_start]

theorem center (self : Layout K) : (guise.layout self).center = guise.layout self.center := by
  have lines : (guise.layout self).elements.filterMap Element.asLine? =
      (self.elements.filterMap Element.asLine?).map guise.line := by
    rw [layout, Layout.mapElements, List.filterMap_map, List.map_filterMap]
    congr
    funext element
    cases element <;> rfl
  simp only [Layout.center, lines, guise.boundsOf]
  simp only [layout, Layout.mapElements, List.map_map, Function.comp_def, guise.element_shift]

end Centering

section Settling

def entry (self : Nat × Line K) : Nat × Line K := (self.1, guise.line self.2)

theorem linesFrom (first : Nat) (elements : List (Element K)) :
    Layout.linesFrom first (elements.map guise.element) =
      (Layout.linesFrom first elements).map guise.entry := by
  induction elements generalizing first with
  | nil => rfl
  | cons element elements ih =>
      cases element with
      | line placed => exact congrArg (List.cons _) (ih (first + 1))
      | connector placed => exact ih (first + 1)

theorem lines (self : Layout K) : (guise.layout self).lines = self.lines.map guise.entry :=
  guise.linesFrom 0 self.elements

theorem line? (self : Layout K) (handle : Nat) :
    (guise.layout self).line? handle = (self.line? handle).map guise.line := by
  simp only [Layout.line?, layout, Layout.mapElements, List.getElem?_map]
  cases self.elements[handle]? with
  | none => rfl
  | some element =>
      cases element with
      | line placed => rfl
      | connector placed => rfl

theorem setLine (self : Layout K) (handle : Nat) (line : Line K) :
    (guise.layout self).setLine handle (guise.line line) =
      guise.layout (self.setLine handle line) := by
  simp only [Layout.setLine, layout, Layout.mapElements, List.map_set]
  rfl

theorem disjoint (a b : Line K) :
    (guise.line a).disjoint (guise.line b) = a.disjoint b := by
  simp only [Line.disjoint, guise.line_minX, guise.line_maxX]

theorem alignment (upper lower : Nat × Line K) (distance : K) :
    Waveguide.alignment (guise.entry upper) (guise.entry lower) distance =
      Waveguide.alignment upper lower distance := by
  simp only [Waveguide.alignment, entry, guise.line_minX, guise.line_maxX]

theorem line_y (self : Line K) : (guise.line self).y = self.y := by
  simp only [Line.y, Endpoint.y, guise.line_start]

theorem pairChange (a b : Nat × Line K) :
    Waveguide.pairChange (guise.entry a) (guise.entry b) = Waveguide.pairChange a b := by
  have y (line : Nat × Line K) : (guise.entry line).2.y = line.2.y := guise.line_y line.2
  have clearance (line : Nat × Line K) :
      (guise.entry line).2.clearance = line.2.clearance := guise.line_clearance line.2
  have ranges : (guise.entry a).2.disjoint (guise.entry b).2 = a.2.disjoint b.2 :=
    guise.disjoint a.2 b.2
  by_cases above : b.2.y < a.2.y
  · simp only [Waveguide.pairChange, ranges, y, if_pos above, clearance, guise.alignment]
  · simp only [Waveguide.pairChange, ranges, y, if_neg above, clearance, guise.alignment]

theorem changeWith (line : Nat × Line K) (others : List (Nat × Line K)) :
    Waveguide.changeWith (guise.entry line) (others.map guise.entry) =
      Waveguide.changeWith line others := by
  induction others with
  | nil => rfl
  | cons other others ih =>
      rw [List.map_cons, Waveguide.changeWith, Waveguide.changeWith, guise.pairChange, ih]

theorem firstChange (lines : List (Nat × Line K)) :
    Waveguide.firstChange (lines.map guise.entry) = Waveguide.firstChange lines := by
  induction lines with
  | nil => rfl
  | cons line others ih =>
      rw [List.map_cons, Waveguide.firstChange, Waveguide.firstChange, guise.changeWith, ih]

theorem nextChange (self : Layout K) : (guise.layout self).nextChange = self.nextChange := by
  rw [Layout.nextChange, Layout.nextChange, guise.lines, guise.firstChange]

theorem cut (self : Line K) (x : K) (parent : Nat) :
    (guise.line self).cut x parent =
      (self.cut x parent).map fun parts => (guise.line parts.1, guise.line parts.2) := by
  have cut_eq (line : Line K) : line.cut x parent =
      if line.finish.x < line.start.x then .error (.lineEndsOrder line.start.x line.finish.x)
      else .ok (line.leftPart x, line.rightPart x parent) := rfl
  rw [cut_eq, cut_eq]
  unfold Endpoint.x
  rw [guise.line_start, guise.line_finish, ← guise.line_leftPart, ← guise.line_rightPart]
  split
  · rfl
  · rfl

theorem cutLine (self : Layout K) (handle : Nat) (x : K) :
    (guise.layout self).cutLine handle x =
      (self.cutLine handle x).map (Option.map guise.layout) := by
  simp only [Layout.cutLine, guise.line?]
  cases self.line? handle with
  | none => rfl
  | some line =>
      simp only [Option.map_some, guise.cut]
      cases line.cut x handle with
      | error failure => rfl
      | ok parts =>
          change Except.ok (some _) = Except.ok (some _)
          rw [guise.setLine]
          simp only [layout, Layout.mapElements, List.map_append]
          rfl

theorem softenLower (self : Layout K) (lower : Nat) (softUp : K) :
    (guise.layout self).softenLower lower softUp =
      guise.layout (self.softenLower lower softUp) := by
  simp only [Layout.softenLower, guise.line?]
  cases self.line? lower with
  | none => rfl
  | some low =>
      dsimp only [Option.map_some]
      rw [guise.line_clearance, ← guise.line_soften, guise.setLine]

theorem splitPadding (self : Layout K) (upper lower : Nat) (distance : K) :
    (guise.layout self).splitPadding upper lower distance =
      guise.layout (self.splitPadding upper lower distance) := by
  simp only [Layout.splitPadding, guise.line?]
  match self.line? upper, self.line? lower with
  | none, none => rfl
  | none, some _ => rfl
  | some _, none => rfl
  | some up, some low =>
      let parts := Layout.shares up.clearance low.clearance distance
      let clearance := { up.clearance with softDown := parts.1 }
      dsimp only [Option.map_some]
      rw [guise.line_clearance, guise.line_clearance]
      change ((guise.layout self).setLine upper { guise.line up with clearance }).softenLower lower
          parts.2 =
        guise.layout ((self.setLine upper { up with clearance }).softenLower lower parts.2)
      rw [← guise.line_soften, guise.setLine, guise.softenLower]

def scan : Layout.Scan K → Layout.Scan K
  | .settled => .settled
  | .failed failure => .failed failure
  | .cut next => .cut (guise.layout next)
  | .split next => .split (guise.layout next)

theorem layout_scan (self : Layout K) : (guise.layout self).scan = guise.scan self.scan := by
  simp only [Layout.scan, guise.nextChange]
  match self.nextChange with
  | .error failure => rfl
  | .ok none => rfl
  | .ok (some (.cut handle x)) =>
      simp only [guise.cutLine]
      match self.cutLine handle x with
      | .error failure => rfl
      | .ok none => rfl
      | .ok (some next) => rfl
  | .ok (some (.split upper lower distance)) =>
      simp only [guise.splitPadding]
      rfl

theorem settleWithin (scans cuts : Nat) (self : Layout K) :
    Layout.settleWithin scans cuts (guise.layout self) =
      (guise.layout (Layout.settleWithin scans cuts self).1,
        (Layout.settleWithin scans cuts self).2) := by
  induction scans generalizing cuts self with
  | zero => rfl
  | succ scans ih =>
      simp only [Layout.settleWithin, guise.layout_scan]
      cases self.scan with
      | settled => rfl
      | failed failure => rfl
      | cut next => exact ih (cuts + 1) next
      | split next => exact ih cuts next

theorem scanLimit (self : Layout K) : (guise.layout self).scanLimit = self.scanLimit := by
  simp only [Layout.scanLimit, guise.lines, List.length_map, Layout.softClearance, List.foldl_map,
    entry, guise.line_clearance]

theorem settle (self : Layout K) :
    (guise.layout self).settle = (guise.layout self.settle.1, self.settle.2) := by
  rw [Layout.settle, guise.scanLimit, guise.settleWithin]
  rfl

end Settling

section Drawing

theorem connector_blocks (self : Connector K) (start finish : Line K) :
    (guise.connector self).blocks (guise.line start) (guise.line finish) =
      self.blocks start finish := by
  simp only [Connector.blocks, Line.reach, Endpoint.x, Endpoint.y, guise.connector_start,
    guise.connector_finish, guise.connector_property, guise.connector_elevation,
    guise.line_property]

theorem attachedLine (self : Layout K) {given endpoint : Endpoint K}
    (attachment : given.attachment = endpoint.attachment) :
    Program.attachedLine (guise.layout self) given =
      (Program.attachedLine self endpoint).map guise.line := by
  unfold Program.attachedLine
  rw [attachment]
  cases endpoint.attachment with
  | none => rfl
  | some attachment =>
      simp only [Option.bind_some, guise.line?]
      cases self.line? attachment.target with
      | none => rfl
      | some line => rfl

end Drawing

end Guise

namespace Guise

variable {K : Type} [Numeral K] (guise : Guise K)

theorem elementBlocks (self : Layout K) (element : Element K) :
    Program.elementBlocks (guise.layout self) (guise.element element) =
      Program.elementBlocks self element := by
  cases element with
  | line placed => exact congrArg Except.ok (guise.line_blocks placed)
  | connector placed =>
      simp only [Guise.element, Program.elementBlocks,
        guise.attachedLine self (guise.connector_startAttachment placed),
        guise.attachedLine self (guise.connector_finishAttachment placed)]
      cases Program.attachedLine self placed.start with
      | error failure => rfl
      | ok start =>
          cases Program.attachedLine self placed.finish with
          | error failure => rfl
          | ok finish => exact congrArg Except.ok (guise.connector_blocks placed start finish)

theorem position (self : Layout K) (spec : PositionSpec K) :
    (guise.layout self).resolver.position spec = self.resolver.position spec := by
  unfold Resolver.position
  cases spec.reference with
  | none => rfl
  | some target =>
      simp only [guise.lookup]
      cases self.resolver.lookup target with
      | error failure => rfl
      | ok found =>
          simp only [Except.map, bind, Except.bind, guise.element_position, guise.element_width]

theorem placeSource (self : Layout K) :
    Scene.placeSource (guise.layout self) = Scene.placeSource self := by
  funext spec diagnostics
  unfold Scene.placeSource
  rw [guise.position]
  rfl

theorem placeFlux (self : Layout K) :
    Scene.placeFlux (guise.layout self) = Scene.placeFlux self := by
  funext spec diagnostics
  unfold Scene.placeFlux
  rw [guise.position]
  rfl

theorem placeTransient (self : Layout K) (interval : K) :
    Scene.placeTransient (guise.layout self) interval = Scene.placeTransient self interval := by
  funext spec diagnostics
  unfold Scene.placeTransient
  simp only [guise.position]
  rfl

end Guise

end Waveguide
