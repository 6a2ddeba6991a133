import Waveguide.Block
import Waveguide.Scene
import Waveguide.Template.Resource

/-!
Writing the control program of a scene. The program is drafted line by line: rendered templates are
appended to the current line until it is closed. All wording comes from the templates. A failure
leaves the draft as far as it got.
-/

namespace Waveguide

structure Draft where
  lines : Array String
  current : String
  fluxes : Array Nat
  steps : String

def Draft.empty : Draft := ⟨#[], "", #[], ""⟩

def Draft.text (draft : Draft) : String :=
  String.join (draft.lines.toList.map (· ++ "\n"))

abbrev Writing (K : Type) := ExceptT (Failure K) (StateM Draft)

namespace Program

variable {K : Type} [Numeral K]

def render (renderer : Renderer K) (name : String) (slots : List (Slot K)) : Writing K String :=
  ExceptT.mk (pure (renderer name slots))

def form (renderer : Renderer K) (name : String) (slots : List (Slot K)) : Writing K Unit := do
  let piece ← render renderer name slots
  modify fun draft => { draft with current := draft.current ++ piece }

def push : Writing K Unit :=
  modify fun draft => { draft with lines := draft.lines.push draft.current, current := "" }

def add (renderer : Renderer K) (name : String) (slots : List (Slot K)) : Writing K Unit := do
  form renderer name slots
  push

def comment (renderer : Renderer K) (text : String) : Writing K Unit :=
  add renderer "comment" [.text text]

def commentIfAny (renderer : Renderer K) : Option String → Writing K Unit
  | some text => comment renderer text
  | none => pure ()

def header (renderer : Renderer K) (time inputName : String) (remark : Option String) :
    Writing K Unit := do
  comment renderer (← render renderer "intro" [])
  comment renderer (← render renderer "generated" [.text time])
  comment renderer (← render renderer "base" [.text inputName])
  commentIfAny renderer remark

def cellSize (scene : Scene K) : Point K :=
  let margin := 2.0 * scene.overshot
  if scene.layout.elements.isEmpty then ⟨margin, margin⟩
  else ⟨scene.layout.bounds.width, scene.layout.bounds.height + margin⟩

def cell (renderer : Renderer K) (scene : Scene K) : Writing K Unit :=
  let size := cellSize scene
  match scene.thickness with
  | some thickness =>
      add renderer "geometry_3d"
        [.number size.x, .number size.y, .number (thickness + 2.0 * scene.overshot)]
  | none => add renderer "geometry" [.number size.x, .number size.y]

def block (renderer : Renderer K) (block : Block K) : Writing K Unit := do
  let center := block.center
  let size := block.size
  let place : List (Slot K) := [.number center.x, .number center.y, .number size.x, .number size.y]
  form renderer "block_head" []
  match block.thickness with
  | some thickness => form renderer "block_position_3d" (place ++ [.number thickness])
  | none => form renderer "block_position" place
  let (material, values) := block.medium.template
  form renderer material (values.map .number)
  form renderer "block_tail" []
  push

def attachedLine (layout : Layout K) (endpoint : Endpoint K) : Except (Failure K) (Line K) :=
  match endpoint.attachment.bind fun attachment => layout.line? attachment.target with
  | some line => .ok line
  | none => .error .detachedConnector

def elementBlocks (layout : Layout K) : Element K → Except (Failure K) (List (Block K))
  | .line line => .ok line.blocks
  | .connector connector => do
      let startLine ← attachedLine layout connector.start
      let finishLine ← attachedLine layout connector.finish
      .ok (connector.blocks startLine finishLine)

def element (renderer : Renderer K) (layout : Layout K) (element : Element K) :
    Writing K Unit := do
  commentIfAny renderer element.comment
  let blocks ← ExceptT.mk (pure (elementBlocks layout element))
  blocks.forM (block renderer)

def geometry (renderer : Renderer K) (scene : Scene K) : Writing K Unit := do
  add renderer "geometry_head" []
  scene.layout.elements.forM (element renderer scene.layout)
  add renderer "geometry_tail" []

def Profile.template : Profile → String
  | .pulse => "source_pulse"
  | .continuous => "source_continuous"

def aperture (position : Point K) (width : K) : List (Slot K) :=
  [.number position.x, .number position.y, .number 0, .number width]

def source (renderer : Renderer K) (source : Source K) : Writing K Unit := do
  commentIfAny renderer source.comment
  let property := source.property
  form renderer "source_head" []
  form renderer "source_component" [.text property.component]
  form renderer "source_position" (aperture source.position source.width)
  form renderer (Profile.template property.profile)
    [.number property.center, .number property.width]
  form renderer "source_tail" []
  push

def sources (renderer : Renderer K) (scene : Scene K) : Writing K Unit := do
  add renderer "sources_head" []
  scene.sources.forM (source renderer)
  add renderer "sources_tail" []

def controls (renderer : Renderer K) (scene : Scene K) : Writing K Unit := do
  add renderer "pml" []
  add renderer "resolution" [.number scene.resolution]
  if scene.complex then add renderer "complex" []

def flux (renderer : Renderer K) (number : Nat) (flux : FluxPoint K) : Writing K Unit := do
  commentIfAny renderer flux.comment
  let property := flux.property
  form renderer "flux_head" [.integer number]
  form renderer "flux_prop"
    [.number property.center, .number property.width, .integer property.resolution]
  form renderer "flux_position" (aperture flux.position flux.width)
  form renderer "flux_tail" []
  push
  modify fun draft => { draft with fluxes := draft.fluxes.push number }

def forNumbered {α : Type} (write : Nat → α → Writing K Unit) : Nat → List α → Writing K Unit
  | _, [] => pure ()
  | first, item :: items => do
      write first item
      forNumbered write (first + 1) items

def fluxes (renderer : Renderer K) (scene : Scene K) : Writing K Unit :=
  forNumbered (flux renderer) 0 scene.fluxes

def transient (renderer : Renderer K) (number : Nat) (transient : Transient K) :
    Writing K Unit := do
  let name := "transient" ++ Nat.repr number
  let subject := transient.field ++ transient.component
  commentIfAny renderer transient.comment
  form renderer "function_head" [.text name]
  match transient.position with
  | none =>
      form renderer "snapshot_global"
        [.text subject, .number transient.interval, .text transient.field,
          .text transient.component]
  | some position =>
      form renderer "snapshot_local"
        [.text (subject ++ "-" ++ Nat.repr number), .number transient.interval,
          .text transient.field, .text transient.component, .number position.x,
          .number position.y]
  form renderer "function_tail" []
  push
  let step ← render renderer "function_ref" [.text name]
  modify fun draft => { draft with steps := draft.steps ++ step }

def transients (renderer : Renderer K) (scene : Scene K) : Writing K Unit :=
  forNumbered (transient renderer) 0 scene.transients

def runControl (renderer : Renderer K) (scene : Scene K) : Writing K Unit := do
  let steps := (← get).steps
  match scene.run with
  | .decay position =>
      add renderer "time_decay"
        [.text steps, .number scene.duration, .number position.x, .number position.y]
  | .structureOnly | .fixed => add renderer "time_fixed" [.number scene.duration, .text steps]

def finalizeFluxes (renderer : Renderer K) : Writing K Unit := do
  form renderer "fluxes_head" []
  let numbers := (← get).fluxes
  numbers.toList.forM fun number => form renderer "flux_ref" [.integer number]
  form renderer "fluxes_tail" []
  push

def write (renderer : Renderer K) (settings : Settings K) (time : String) (scene : Scene K) :
    Writing K Unit := do
  header renderer time settings.inputName scene.comment
  cell renderer scene
  geometry renderer scene
  sources renderer scene
  controls renderer scene
  fluxes renderer scene
  transients renderer scene
  runControl renderer scene
  finalizeFluxes renderer

def text (renderer : Renderer K) (settings : Settings K) (time : String) (scene : Scene K) :
    Except (Failure K) String :=
  match (write renderer settings time scene).run.run Draft.empty with
  | (.ok _, draft) => .ok draft.text
  | (.error failure, _) => .error failure

structure Output where
  program : String
  diagnostics : Diagnostics
  controlFile : Option String

def ofDescription (description : Description K) (renderer : Renderer K) (settings : Settings K)
    (time : String) : Except (Failure K) Output := do
  let scene ← Scene.build description settings
  let program ← text renderer settings time scene
  .ok ⟨program, scene.diagnostics, description.output.bind OutputSpec.controlFile⟩

end Program

end Waveguide
