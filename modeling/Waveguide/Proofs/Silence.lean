import Mathlib
import Waveguide.Proofs.Guises

/-!
Descriptions without comments. Comments take no part in building a scene: without them the same
scene is built, without them.
-/

namespace Waveguide

section Erasure

variable {K : Type}

def ElementSpec.silent : ElementSpec K → ElementSpec K
  | .line spec => .line { spec with comment := none }
  | .connector spec => .connector { spec with comment := none }

def SourceSpec.silent (spec : SourceSpec K) : SourceSpec K := { spec with comment := none }

def FluxSpec.silent (spec : FluxSpec K) : FluxSpec K := { spec with comment := none }

def TransientSpec.silent (spec : TransientSpec K) : TransientSpec K := { spec with comment := none }

def Description.silent (description : Description K) : Description K :=
  { description with
    comment := none
    geometry := { description.geometry with
      elements := description.geometry.elements.map ElementSpec.silent }
    sources := description.sources.map SourceSpec.silent
    collectors := {
      spectral := description.collectors.spectral.map FluxSpec.silent
      temporal := description.collectors.temporal.map TransientSpec.silent } }

def Line.silent (line : Line K) : Line K := { line with comment := none }

def Connector.silent (connector : Connector K) : Connector K := { connector with comment := none }

def Source.silent (source : Source K) : Source K := { source with comment := none }

def FluxPoint.silent (flux : FluxPoint K) : FluxPoint K := { flux with comment := none }

def Transient.silent (transient : Transient K) : Transient K := { transient with comment := none }

def Guise.silent [Scalar K] : Guise K where
  line := Line.silent
  connector := Connector.silent
  line_id _ := rfl
  line_start _ := rfl
  line_finish _ := rfl
  line_property _ := rfl
  line_clearance _ := rfl
  line_blocks _ := rfl
  line_shift _ _ := rfl
  line_soften _ _ := rfl
  line_leftPart _ _ := rfl
  line_rightPart _ _ _ := rfl
  connector_id _ := rfl
  connector_start _ := rfl
  connector_finish _ := rfl
  connector_property _ := rfl
  connector_elevation _ := rfl
  connector_startAttachment _ := rfl
  connector_finishAttachment _ := rfl
  connector_shift _ _ := rfl

def Layout.silent [Scalar K] (layout : Layout K) : Layout K := Guise.silent.layout layout

def Scene.silent [Scalar K] (scene : Scene K) : Scene K :=
  { scene with
    layout := scene.layout.silent
    sources := scene.sources.map Source.silent
    fluxes := scene.fluxes.map FluxPoint.silent
    transients := scene.transients.map Transient.silent
    comment := none }

end Erasure

theorem map_bind {ε α β γ : Type} (action : Except ε α) (next : α → Except ε β) (after : β → γ) :
    (action >>= next).map after = action >>= fun value => (next value).map after := by
  cases action with
  | error failure => rfl
  | ok value => rfl

theorem bind_map {ε α β γ : Type} (action : Except ε α) (change : α → β) (next : β → Except ε γ) :
    (action.map change >>= next) = action >>= fun value => next (change value) := by
  cases action with
  | error failure => rfl
  | ok value => rfl

variable {K : Type}

namespace Layout

variable [Scalar K] (layout : Layout K)

theorem lineBetween_silent (spec : LineSpec K) (start finish : Resolved K) :
    layout.lineBetween { spec with comment := none } start finish =
      (layout.lineBetween spec start finish).map Line.silent := by
  unfold lineBetween
  dsimp only
  split
  · rfl
  · split
    · rfl
    · rfl

theorem prepareLine_silent (spec : LineSpec K) :
    layout.silent.prepareLine { spec with comment := none } =
      (layout.prepareLine spec).map Line.silent := by
  rw [silent, Guise.silent.prepareLine, prepareLine_eq, prepareLine_eq]
  simp only [map_bind, ← lineBetween_silent]
  rfl

theorem prepareConnector_silent (spec : ConnectorSpec K) :
    layout.silent.prepareConnector { spec with comment := none } =
      (layout.prepareConnector spec).map Connector.silent := by
  rw [silent, Guise.silent.prepareConnector]
  unfold prepareConnector
  dsimp only
  cases layout.checkId spec.id with
  | error failure => rfl
  | ok _ =>
      match spec.start.attachedTo, spec.finish.attachedTo with
      | none, _ => rfl
      | some _, none => rfl
      | some startId, some finishId =>
          dsimp only
          cases layout.connectorTip startId spec.start.tip with
          | error failure => rfl
          | ok start =>
              cases layout.connectorTip finishId spec.finish.tip with
              | error failure => rfl
              | ok finish =>
                  obtain ⟨startPoint, startAttachment⟩ := start
                  obtain ⟨finishPoint, finishAttachment⟩ := finish
                  match startAttachment, finishAttachment with
                  | none, _ => rfl
                  | some _, none => rfl
                  | some startAttachment, some finishAttachment =>
                      simp only [bind, Except.bind]
                      split
                      · rfl
                      · rfl

theorem silent_modifyTip (attachment : Attachment K) (mark : Endpoint K → Endpoint K) :
    (layout.modifyTip attachment mark).silent = layout.silent.modifyTip attachment mark := by
  have same : ∀ element : Element K, Guise.silent.element (element.modifyTip mark attachment.tip) =
      (Guise.silent.element element).modifyTip mark attachment.tip := by
    intro element
    cases element with
    | line placed => cases attachment.tip <;> rfl
    | connector placed => cases attachment.tip <;> rfl
  exact layout.modifyTip_mapElements attachment same

theorem silent_markRight (attachment : Option (Attachment K)) :
    (layout.markRight attachment).silent = layout.silent.markRight attachment := by
  cases attachment with
  | none => rfl
  | some attachment => exact layout.silent_modifyTip attachment Endpoint.markRight

theorem silent_markLeft (attachment : Option (Attachment K)) :
    (layout.markLeft attachment).silent = layout.silent.markLeft attachment := by
  cases attachment with
  | none => rfl
  | some attachment => exact layout.silent_modifyTip attachment Endpoint.markLeft

theorem add_silent (spec : ElementSpec K) :
    layout.silent.add spec.silent = ((layout.add spec).1.silent, (layout.add spec).2) := by
  cases spec with
  | line spec =>
      simp only [add, ElementSpec.silent, addLine, prepareLine_silent]
      cases layout.prepareLine spec with
      | error failure => rfl
      | ok line =>
          have marked : ((layout.markRight line.start.attachment).markLeft
              line.finish.attachment).silent =
                (layout.silent.markRight line.start.attachment).markLeft
                  line.finish.attachment := by
            rw [silent_markLeft, silent_markRight]
          change ((layout.silent.markRight line.start.attachment).markLeft
            line.finish.attachment).push (Guise.silent.element (.line line)) = _
          rw [← marked]
          exact Guise.silent.push _ (.line line)
  | connector spec =>
      simp only [add, ElementSpec.silent, addConnector, prepareConnector_silent]
      cases layout.prepareConnector spec with
      | error failure => rfl
      | ok connector =>
          have marked : ((layout.markRight connector.start.attachment).markRight
              connector.finish.attachment).silent =
                (layout.silent.markRight connector.start.attachment).markRight
                  connector.finish.attachment := by
            rw [silent_markRight, silent_markRight]
          change ((layout.silent.markRight connector.start.attachment).markRight
            connector.finish.attachment).push (Guise.silent.element (.connector connector)) = _
          rw [← marked]
          exact Guise.silent.push _ (.connector connector)

theorem addAll_silent {K : Type} [Numeral K] (layout : Layout K) (specs : List (ElementSpec K)) :
    layout.silent.addAll (specs.map ElementSpec.silent) = (layout.addAll specs).map silent := by
  induction specs generalizing layout with
  | nil => rfl
  | cons spec specs ih =>
      rw [List.map_cons, addAll, addAll, add_silent]
      cases layout.add spec with
      | mk next result =>
          cases result with
          | error failure => rfl
          | ok handle => exact ih next

end Layout

namespace Scene

variable [Numeral K]

theorem place_silent (geometry : GeometrySpec K) :
    place { geometry with elements := geometry.elements.map ElementSpec.silent } =
      (place geometry).map Layout.silent := by
  have added := Layout.addAll_silent (Layout.empty geometry.thickness) geometry.elements
  change Layout.addAll (Layout.empty geometry.thickness) _ = _ at added
  simp only [place, added, bind_map, map_bind]
  cases (Layout.empty geometry.thickness).addAll geometry.elements with
  | error failure => rfl
  | ok layout => exact congrArg Except.ok (Guise.silent.center layout)

omit [Numeral K] in
theorem placeAll_silent {α β : Type}
    {place : α → Diagnostics → Except (Failure K) (β × Diagnostics)} {change : α → α} {after : β → β}
    (each : ∀ item diagnostics, place (change item) diagnostics =
      (place item diagnostics).map fun found => (after found.1, found.2))
    (items : List α) (diagnostics : Diagnostics) :
    placeAll place (items.map change) diagnostics =
      (placeAll place items diagnostics).map fun found => (found.1.map after, found.2) := by
  induction items generalizing diagnostics with
  | nil => rfl
  | cons item items ih =>
      simp only [List.map_cons, placeAll, each, bind_map, map_bind, ih]
      rfl

theorem placeSource_silent (layout : Layout K) (spec : SourceSpec K) (diagnostics : Diagnostics) :
    placeSource layout spec.silent diagnostics =
      (placeSource layout spec diagnostics).map fun found => (found.1.silent, found.2) := by
  simp only [placeSource, map_bind]
  rfl

theorem placeFlux_silent (layout : Layout K) (spec : FluxSpec K) (diagnostics : Diagnostics) :
    placeFlux layout spec.silent diagnostics =
      (placeFlux layout spec diagnostics).map fun found => (found.1.silent, found.2) := by
  simp only [placeFlux, map_bind]
  rfl

theorem placeTransient_silent (layout : Layout K) (interval : K) (spec : TransientSpec K)
    (diagnostics : Diagnostics) :
    placeTransient layout interval spec.silent diagnostics =
      (placeTransient layout interval spec diagnostics).map fun found =>
        (found.1.silent, found.2) := by
  unfold placeTransient
  cases position : spec.position with
  | none => simp only [TransientSpec.silent, position]; rfl
  | some position' => simp only [TransientSpec.silent, position, map_bind]; rfl

theorem sources_silent (layout : Layout K) (specs : List (SourceSpec K))
    (diagnostics : Diagnostics) :
    placeAll (placeSource layout.silent) (specs.map SourceSpec.silent) diagnostics =
      (placeAll (placeSource layout) specs diagnostics).map fun found =>
        (found.1.map Source.silent, found.2) := by
  rw [Layout.silent, Guise.silent.placeSource]
  exact placeAll_silent (placeSource_silent layout) specs diagnostics

theorem fluxes_silent (layout : Layout K) (specs : List (FluxSpec K)) (diagnostics : Diagnostics) :
    placeAll (placeFlux layout.silent) (specs.map FluxSpec.silent) diagnostics =
      (placeAll (placeFlux layout) specs diagnostics).map fun found =>
        (found.1.map FluxPoint.silent, found.2) := by
  rw [Layout.silent, Guise.silent.placeFlux]
  exact placeAll_silent (placeFlux_silent layout) specs diagnostics

theorem transients_silent (layout : Layout K) (interval : K) (specs : List (TransientSpec K))
    (diagnostics : Diagnostics) :
    placeAll (placeTransient layout.silent interval) (specs.map TransientSpec.silent) diagnostics =
      (placeAll (placeTransient layout interval) specs diagnostics).map fun found =>
        (found.1.map Transient.silent, found.2) := by
  rw [Layout.silent, Guise.silent.placeTransient]
  exact placeAll_silent (placeTransient_silent layout interval) specs diagnostics

theorem runControl_silent (settings : Settings K) (time : TimeSpec K)
    (fluxes : List (FluxPoint K)) :
    runControl settings time (fluxes.map FluxPoint.silent) = runControl settings time fluxes := by
  have point : decayPoint (fluxes.map FluxPoint.silent) = decayPoint fluxes := by
    cases fluxes with
    | nil => rfl
    | cons flux fluxes => rfl
  simp only [runControl, point]

omit [Numeral K] in
theorem snapshots_silent (interval : K) (snapshot : Option (SnapshotSpec K)) :
    (snapshots interval snapshot).map Transient.silent = snapshots interval snapshot := by
  cases snapshot with
  | none => rfl
  | some snapshot => rfl

/-- Without its comments a description is built into the same scene, without them. It fails in the
same way, if it does. -/
theorem build_silent (description : Description K) (settings : Settings K) :
    build description.silent settings = (build description settings).map silent := by
  have listed {α : Type} (diagnostics : Diagnostics) (kind : WarningKind) (subject : String)
      (items : List α) (change : α → α) :
      diagnostics.checkListed kind subject (items.map change) =
        diagnostics.checkListed kind subject items := by
    simp only [Diagnostics.checkListed, List.isEmpty_map]
  have settled (layout : Layout K) :
      layout.silent.settle = (layout.settle.1.silent, layout.settle.2) :=
    Guise.silent.settle layout
  unfold build
  simp only [map_bind, Description.silent, listed, place_silent, bind_map, settled, sources_silent,
    fluxes_silent, transients_silent, runControl_silent]
  simp only [Except.map, silent, List.map_append, snapshots_silent]

end Scene

end Waveguide
