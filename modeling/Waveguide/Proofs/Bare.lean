import Mathlib
import Waveguide.Proofs.Guises

/-!
Layouts without the attachments of their lines and without marks. This is a guise of the layout:
new elements are placed, the layout is centered and its conflicts are settled in the same way
without them.
-/

namespace Waveguide

variable {K : Type}

section Erasure

def Line.bare (line : Line K) : Line K :=
  { line with
    start := Endpoint.plain line.start.position
    finish := Endpoint.plain line.finish.position }

def Connector.bare (connector : Connector K) : Connector K :=
  { connector with
    start := Endpoint.attached connector.start.position connector.start.attachment
    finish := Endpoint.attached connector.finish.position connector.finish.attachment }

def Element.bare : Element K → Element K
  | .line self => .line self.bare
  | .connector self => .connector self.bare

def Layout.bare (layout : Layout K) : Layout K := layout.mapElements Element.bare

end Erasure

def Guise.bare [Scalar K] : Guise K where
  line := Line.bare
  connector := Connector.bare
  line_id _ := rfl
  line_start _ := rfl
  line_finish _ := rfl
  line_property _ := rfl
  line_clearance _ := rfl
  line_blocks _ := rfl
  line_shift _ _ := rfl
  line_soften _ _ := rfl
  line_leftPart _ _ := rfl
  line_rightPart _ _ _ := rfl
  connector_id _ := rfl
  connector_start _ := rfl
  connector_finish _ := rfl
  connector_property _ := rfl
  connector_elevation _ := rfl
  connector_startAttachment _ := rfl
  connector_finishAttachment _ := rfl
  connector_shift _ _ := rfl

theorem Element.bare_modifyTip (element : Element K) {mark : Endpoint K → Endpoint K}
    (position : ∀ point, (mark point).position = point.position)
    (attachment : ∀ point, (mark point).attachment = point.attachment) (tip : Tip) :
    (element.modifyTip mark tip).bare = element.bare := by
  cases element with
  | line placed =>
      cases tip with
      | start => exact congrArg Element.line (by simp only [Line.bare, position])
      | finish => exact congrArg Element.line (by simp only [Line.bare, position])
  | connector placed =>
      cases tip with
      | start =>
          exact congrArg Element.connector (by simp only [Connector.bare, position, attachment])
      | finish =>
          exact congrArg Element.connector (by simp only [Connector.bare, position, attachment])

namespace Layout

section Marks

variable (layout : Layout K)

theorem bare_modifyTip (attachment : Attachment K) {mark : Endpoint K → Endpoint K}
    (position : ∀ point, (mark point).position = point.position)
    (attached : ∀ point, (mark point).attachment = point.attachment) :
    (layout.modifyTip attachment mark).bare = layout.bare := by
  have erased : ∀ element : Element K,
      (element.modifyTip mark attachment.tip).bare = id element.bare :=
    fun element => element.bare_modifyTip position attached attachment.tip
  rw [bare, layout.modifyTip_mapElements attachment erased, List.modify_id]
  rfl

theorem bare_markRight (attachment : Option (Attachment K)) :
    (layout.markRight attachment).bare = layout.bare := by
  cases attachment with
  | none => rfl
  | some attachment => exact layout.bare_modifyTip attachment (fun _ => rfl) fun _ => rfl

theorem bare_markLeft (attachment : Option (Attachment K)) :
    (layout.markLeft attachment).bare = layout.bare := by
  cases attachment with
  | none => rfl
  | some attachment => exact layout.bare_modifyTip attachment (fun _ => rfl) fun _ => rfl

end Marks

variable [Scalar K] (layout : Layout K)

theorem bare_push (element : Element K) :
    layout.bare.push element.bare = ((layout.push element).1.bare, (layout.push element).2) :=
  Guise.bare.push layout element

theorem bare_prepareLine (spec : LineSpec K) :
    layout.bare.prepareLine spec = layout.prepareLine spec :=
  Guise.bare.prepareLine layout spec

theorem bare_prepareConnector (spec : ConnectorSpec K) :
    layout.bare.prepareConnector spec = layout.prepareConnector spec :=
  Guise.bare.prepareConnector layout spec

theorem bare_center : layout.bare.center = layout.center.bare := Guise.bare.center layout

theorem bare_settle : layout.bare.settle = (layout.settle.1.bare, layout.settle.2) :=
  Guise.bare.settle layout

end Layout

end Waveguide
