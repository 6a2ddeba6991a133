import Mathlib
import Waveguide.Program
import Waveguide.Proofs.Centering
import Waveguide.Proofs.Consistency
import Waveguide.Proofs.Mapped

/-!
A description whose absolute points are all moved by one offset. Elements are placed where they were
before the move, moved, since the points that refer to others follow them; centering then takes the
offset out again, so the scene and its program are the same.
-/

namespace Waveguide

/-- Results that correspond: values through a view, and failures with the same code. -/
inductive Corresponds {α β : Type} (view : α → β) :
    Except (Failure ℚ) α → Except (Failure ℚ) β → Prop
  | ok (value : α) : Corresponds view (.ok value) (.ok (view value))
  | error {failure other : Failure ℚ} (code : other.code = failure.code) :
      Corresponds view (.error failure) (.error other)

namespace Corresponds

variable {α β γ δ : Type} {view : α → β} {result : γ → δ}

theorem of_map {action : Except (Failure ℚ) α} {other : Except (Failure ℚ) β}
    (same : other = action.map view) : Corresponds view action other := by
  subst same
  cases action with
  | error failure => exact .error rfl
  | ok value => exact .ok value

theorem of_eq {action other : Except (Failure ℚ) α} (same : other = action) :
    Corresponds id action other := by
  subst same
  cases other with
  | error failure => exact .error rfl
  | ok value => exact .ok value

theorem bind {action : Except (Failure ℚ) α} {other : Except (Failure ℚ) β}
    {next : α → Except (Failure ℚ) γ} {follow : β → Except (Failure ℚ) δ}
    (first : Corresponds view action other)
    (rest : ∀ value, Corresponds result (next value) (follow (view value))) :
    Corresponds result (action >>= next) (other >>= follow) := by
  cases first with
  | ok value => exact rest value
  | error code => exact .error code

theorem bind_same {action : Except (Failure ℚ) α} {next : α → Except (Failure ℚ) γ}
    {follow : α → Except (Failure ℚ) δ}
    (rest : ∀ value, Corresponds result (next value) (follow value)) :
    Corresponds result (action >>= next) (action >>= follow) := by
  cases action with
  | error failure => exact .error rfl
  | ok value => exact rest value

end Corresponds

def PointSpec.isAbsolute {K : Type} (spec : PointSpec K) : Bool :=
  spec.reference.isNone && spec.attachedTo.isNone

section Moved

variable (offset : Point ℚ)

/-- The start of a line, moved if it is absolute. Coordinates that are left out are zero. -/
def PointSpec.movedStart (spec : PointSpec ℚ) : PointSpec ℚ :=
  if spec.isAbsolute then
    { spec with x := some (spec.x.getD 0 + offset.x), y := some (spec.y.getD 0 + offset.y) }
  else spec

/-- The end of a line, moved where it has coordinates if it is absolute and counts no periods.
Coordinates that are left out are those of the start. -/
def PointSpec.movedFinish (spec : PointSpec ℚ) : PointSpec ℚ :=
  if spec.isAbsolute && spec.periods.isNone then
    { spec with x := spec.x.map (· + offset.x), y := spec.y.map (· + offset.y) }
  else spec

def LineSpec.moved (spec : LineSpec ℚ) : LineSpec ℚ :=
  { spec with start := spec.start.movedStart offset, finish := spec.finish.movedFinish offset }

def ElementSpec.moved : ElementSpec ℚ → ElementSpec ℚ
  | .line spec => .line (spec.moved offset)
  | .connector spec => .connector spec

def Description.moved (description : Description ℚ) : Description ℚ :=
  { description with
    geometry := { description.geometry with
      elements := description.geometry.elements.map (·.moved offset) } }

def Resolved.moved (point : Resolved ℚ) : Resolved ℚ :=
  { point with position := point.position.add offset }

def OwnStart.moved (own : OwnStart ℚ) : OwnStart ℚ :=
  { own with position := own.position.add offset }

def Connector.moved (connector : Connector ℚ) : Connector ℚ :=
  { connector with
    start := connector.start.shift offset
    finish := connector.finish.shift offset }

def Layout.moved (layout : Layout ℚ) : Layout ℚ := layout.mapElements (·.shift offset)

end Moved

section Points

theorem Point.add_swap (point first second : Point ℚ) :
    (point.add first).add second = (point.add second).add first :=
  congrArg₂ Point.mk (add_right_comm _ _ _) (add_right_comm _ _ _)

end Points

section Elements

variable (element : Element ℚ) (offset : Point ℚ)

theorem Element.shift_tip (tip : Tip) :
    (element.shift offset).tip tip = (element.tip tip).shift offset := by
  cases element with
  | line placed => cases tip <;> rfl
  | connector placed => cases tip <;> rfl

theorem Element.shift_shift (more : Point ℚ) :
    (element.shift offset).shift more = element.shift (offset.add more) := by
  have positions : ∀ point : Endpoint ℚ,
      (point.shift offset).shift more = point.shift (offset.add more) := by
    intro point
    simp only [Endpoint.shift, Point.add_add]
  cases element with
  | line placed =>
      simp only [Element.shift, Element.modifyTip]
      exact congrArg Element.line (by simp only [positions])
  | connector placed =>
      simp only [Element.shift, Element.modifyTip]
      exact congrArg Element.connector (by simp only [positions])

end Elements

namespace Layout

variable (layout : Layout ℚ) (offset : Point ℚ)

theorem lookup_moved (id : String) :
    (layout.moved offset).resolver.lookup id =
      (layout.resolver.lookup id).map fun found => (found.1, found.2.shift offset) :=
  layout.lookup_mapElements _ id

theorem attach_moved (id : String) (tip : Tip) :
    (layout.moved offset).resolver.attach id tip =
      (layout.resolver.attach id tip).map (·.moved offset) := by
  rw [moved, attach_mapElements id tip (fun element => (Element.Revision.shift element offset).kind)
    (fun element => (Element.Revision.shift element offset).width), Resolver.attach_eq]
  cases layout.resolver.lookup id with
  | error failure => rfl
  | ok found =>
      simp only [Except.map, Element.shift_tip]
      rfl

theorem relative_moved (id : String) (tip : Tip) (relative : Point ℚ) :
    (layout.moved offset).resolver.relative id tip relative =
      (layout.resolver.relative id tip relative).map (·.add offset) := by
  rw [Resolver.relative_eq, Resolver.relative_eq, lookup_moved]
  cases layout.resolver.lookup id with
  | error failure => rfl
  | ok found =>
      simp only [Except.map, Element.shift_tip, Endpoint.shift]
      rw [Point.add_swap]

theorem reference_moved (spec : PointSpec ℚ) (target : String) (own : Option (OwnStart ℚ)) :
    (layout.moved offset).resolver.reference spec target (own.map (OwnStart.moved offset)) =
      (layout.resolver.reference spec target own).map (·.add offset) := by
  have elsewhere := layout.relative_moved offset target spec.tip spec.offset
  unfold Resolver.reference
  match own with
  | none => exact elsewhere
  | some own =>
      have same : (own.moved offset).id = own.id := rfl
      simp only [Option.map_some, Option.filter_some, same]
      by_cases itself : (own.id == some target) = true
      · rw [if_pos itself, if_pos itself]
        dsimp only
        split
        · exact congrArg Except.ok (Point.add_swap _ _ _)
        · rfl
      · rw [if_neg itself, if_neg itself]
        exact elsewhere

theorem linePoint_absolute {spec : PointSpec ℚ} (absolute : spec.isAbsolute = true)
    (resolver : Resolver ℚ) (fallback : Point ℚ) (own : Option (OwnStart ℚ)) :
    resolver.linePoint spec fallback own = .ok ⟨spec.plain fallback, none⟩ := by
  simp only [PointSpec.isAbsolute, Bool.and_eq_true, Option.isNone_iff_eq_none] at absolute
  rw [Resolver.linePoint_eq, absolute.1, absolute.2]

theorem linePoint_movedStart {spec : PointSpec ℚ} (absolute : spec.isAbsolute = true)
    (resolver : Resolver ℚ) (own : Option (OwnStart ℚ)) :
    resolver.linePoint (spec.movedStart offset) Point.origin own =
      .ok ⟨(spec.plain Point.origin).add offset, none⟩ := by
  have kept : (spec.movedStart offset).isAbsolute = true := by
    rw [PointSpec.movedStart, if_pos absolute]
    exact absolute
  rw [linePoint_absolute kept, PointSpec.movedStart, if_pos absolute]
  rfl

theorem linePoint_movedFinish {spec : PointSpec ℚ} (absolute : spec.isAbsolute = true)
    (uncounted : spec.periods = none) (resolver : Resolver ℚ) (start : Point ℚ)
    (own : Option (OwnStart ℚ)) :
    resolver.linePoint (spec.movedFinish offset) (start.add offset) own =
      .ok ⟨(spec.plain start).add offset, none⟩ := by
  have free : (spec.isAbsolute && spec.periods.isNone) = true := by simp [absolute, uncounted]
  have kept : (spec.movedFinish offset).isAbsolute = true := by
    rw [PointSpec.movedFinish, if_pos free]
    exact absolute
  rw [linePoint_absolute kept, PointSpec.movedFinish, if_pos free]
  simp only [PointSpec.plain, Point.add, Option.getD_map]

theorem linePoint_moved {spec : PointSpec ℚ} (refers : spec.isAbsolute = false)
    (fallback other : Point ℚ) (own : Option (OwnStart ℚ)) :
    (layout.moved offset).resolver.linePoint spec other (own.map (OwnStart.moved offset)) =
      (layout.resolver.linePoint spec fallback own).map (Resolved.moved offset) := by
  rw [Resolver.linePoint_eq, Resolver.linePoint_eq]
  cases attached : spec.attachedTo with
  | some target => exact layout.attach_moved offset target spec.tip
  | none =>
      cases referred : spec.reference with
      | some target =>
          dsimp only
          rw [reference_moved]
          cases layout.resolver.reference spec target own with
          | error failure => rfl
          | ok point => rfl
      | none => simp [PointSpec.isAbsolute, attached, referred] at refers

theorem flush_moved (sideways : ℚ → ℚ) (width : ℚ) (point : Resolved ℚ) :
    flush sideways width (point.moved offset) = (flush sideways width point).moved offset := by
  unfold flush
  cases attached : point.attachment with
  | none => simp only [Resolved.moved, attached]
  | some attachment =>
      simp only [Resolved.moved, attached, Point.add]
      split
      · simp only [Resolved.mk.injEq, Point.mk.injEq, and_true]
        exact ⟨add_right_comm _ _ _, add_right_comm _ _ _⟩
      · simp only [attached]

theorem map_flush_moved (sideways : ℚ → ℚ) (width : ℚ)
    (found : Except (Failure ℚ) (Resolved ℚ)) :
    (found.map (Resolved.moved offset)).map (flush sideways width) =
      (found.map (flush sideways width)).map (Resolved.moved offset) := by
  cases found with
  | error failure => rfl
  | ok point => exact congrArg Except.ok (flush_moved offset sideways width point)

theorem lineStart_moved (spec : LineSpec ℚ) :
    (layout.moved offset).lineStart (spec.moved offset) =
      (layout.lineStart spec).map (Resolved.moved offset) := by
  rw [lineStart_eq, lineStart_eq, ← map_flush_moved]
  refine congrArg (Except.map (flush id spec.property.width)) ?_
  change (layout.moved offset).resolver.linePoint (spec.start.movedStart offset) _ none = _
  cases absolute : spec.start.isAbsolute with
  | true =>
      rw [linePoint_movedStart offset absolute, linePoint_absolute absolute]
      rfl
  | false =>
      rw [PointSpec.movedStart, if_neg (by simp [absolute])]
      exact layout.linePoint_moved offset absolute Point.origin Point.origin none

theorem lineFinish_moved (spec : LineSpec ℚ) (start : Point ℚ) :
    (layout.moved offset).lineFinish (spec.moved offset) (start.add offset) =
      (layout.lineFinish spec start).map (Resolved.moved offset) := by
  have periods : (spec.moved offset).finish.periods = spec.finish.periods := by
    simp only [LineSpec.moved, PointSpec.movedFinish]
    split <;> rfl
  rw [lineFinish_eq, lineFinish_eq, periods]
  cases counted : spec.finish.periods with
  | some periods =>
      have same : (spec.moved offset).finish = spec.finish := by
        simp [LineSpec.moved, PointSpec.movedFinish, counted]
      simp only [same, Except.map, Resolved.moved, Point.add]
      rw [add_right_comm start.x, add_right_comm (start.x + _)]
      rfl
  | none =>
      dsimp only
      rw [← map_flush_moved]
      refine congrArg (Except.map (flush (fun half => -half) spec.property.width)) ?_
      change (layout.moved offset).resolver.linePoint (spec.finish.movedFinish offset) _
        (some ⟨spec.id, start.add offset⟩) = _
      cases absolute : spec.finish.isAbsolute with
      | true =>
          rw [linePoint_movedFinish offset absolute counted, linePoint_absolute absolute]
          rfl
      | false =>
          rw [PointSpec.movedFinish, if_neg (by simp [absolute])]
          exact layout.linePoint_moved offset absolute start (start.add offset)
            (some ⟨spec.id, start⟩)

theorem lineBetween_moved (spec : LineSpec ℚ) (start finish : Resolved ℚ) :
    Corresponds (Line.moved offset) (layout.lineBetween spec start finish)
      ((layout.moved offset).lineBetween (spec.moved offset) (start.moved offset)
        (finish.moved offset)) := by
  have skip : (spec.moved offset).start.skip = spec.start.skip := by
    simp only [LineSpec.moved, PointSpec.movedStart]
    split <;> rfl
  have order : (finish.moved offset).position.x < (start.moved offset).position.x -
      Scalar.tolerance ↔ finish.position.x < start.position.x - Scalar.tolerance := by
    simp only [Resolved.moved, Point.add, add_sub_right_comm, add_lt_add_iff_right]
  have slope : (finish.moved offset).position.y - (start.moved offset).position.y =
      finish.position.y - start.position.y := by
    simp only [Resolved.moved, Point.add, add_sub_add_right_eq_sub]
  simp only [lineBetween, order, slope, skip]
  split
  · exact .error rfl
  · split
    · exact .error rfl
    · exact .ok _

theorem prepareLine_moved (spec : LineSpec ℚ) :
    Corresponds (Line.moved offset) (layout.prepareLine spec)
      ((layout.moved offset).prepareLine (spec.moved offset)) := by
  rw [prepareLine_eq, prepareLine_eq]
  refine Corresponds.bind_same fun _ => Corresponds.bind_same fun _ => ?_
  refine (Corresponds.of_map (layout.lineStart_moved offset spec)).bind fun start => ?_
  refine (Corresponds.of_map (layout.lineFinish_moved offset spec start.position)).bind ?_
  exact fun finish => layout.lineBetween_moved offset spec start finish

theorem connectorTip_moved (id : String) (tip : Tip) :
    (layout.moved offset).connectorTip id tip =
      (layout.connectorTip id tip).map fun found => (found.1.add offset, found.2) := by
  rw [connectorTip_eq, connectorTip_eq, attach_moved]
  cases layout.resolver.attach id tip with
  | error failure => rfl
  | ok point => rfl

theorem prepareConnector_moved (spec : ConnectorSpec ℚ) :
    Corresponds (Connector.moved offset) (layout.prepareConnector spec)
      ((layout.moved offset).prepareConnector spec) := by
  refine Corresponds.bind_same fun _ => ?_
  split
  · refine (Corresponds.of_map (layout.connectorTip_moved offset _ _)).bind ?_
    rintro ⟨start, first⟩
    refine (Corresponds.of_map (layout.connectorTip_moved offset _ _)).bind ?_
    rintro ⟨finish, last⟩
    have order : finish.y + offset.y + Scalar.tolerance < start.y + offset.y ↔
        finish.y + Scalar.tolerance < start.y := by
      rw [add_right_comm, add_lt_add_iff_right]
    match first, last with
    | none, _ => exact .error rfl
    | some _, none => exact .error rfl
    | some first, some last =>
        simp only [Point.add, order]
        split
        · exact .error rfl
        · simp only [add_right_comm _ offset.x, add_sub_right_comm _ offset.y,
            add_right_comm _ offset.y]
          exact .ok _
  · exact .error rfl

section Marks

variable {mark : Endpoint ℚ → Endpoint ℚ}

theorem modifyTip_moved (attachment : Attachment ℚ)
    (shifted : ∀ point, mark (point.shift offset) = (mark point).shift offset) :
    (layout.moved offset).modifyTip attachment mark =
      (layout.modifyTip attachment mark).moved offset := by
  have commute : ∀ element : Element ℚ, (element.modifyTip mark attachment.tip).shift offset =
      (element.shift offset).modifyTip mark attachment.tip := by
    intro element
    cases element with
    | line placed =>
        cases attachment.tip with
        | start => exact congrArg Element.line (by simp only [shifted])
        | finish => exact congrArg Element.line (by simp only [shifted])
    | connector placed =>
        cases attachment.tip with
        | start => exact congrArg Element.connector (by simp only [shifted])
        | finish => exact congrArg Element.connector (by simp only [shifted])
  exact (layout.modifyTip_mapElements attachment commute).symm

theorem markRight_moved (attachment : Option (Attachment ℚ)) :
    (layout.moved offset).markRight attachment = (layout.markRight attachment).moved offset := by
  cases attachment with
  | none => rfl
  | some attachment => exact layout.modifyTip_moved offset attachment fun _ => rfl

theorem markLeft_moved (attachment : Option (Attachment ℚ)) :
    (layout.moved offset).markLeft attachment = (layout.markLeft attachment).moved offset := by
  cases attachment with
  | none => rfl
  | some attachment => exact layout.modifyTip_moved offset attachment fun _ => rfl

end Marks

/-- An operation that leaves the moved layout behind, and fails for the same cause if it fails. -/
def Follows (done other : Layout ℚ × Except (Failure ℚ) Nat) : Prop :=
  other.1 = done.1.moved offset ∧ Corresponds id done.2 other.2

theorem push_moved (element : Element ℚ) :
    Follows offset (layout.push element) ((layout.moved offset).push (element.shift offset)) := by
  have pushed := layout.push_mapElements (·.shift offset) (Element.Revision.shift element offset).id
  change (layout.moved offset).push (element.shift offset) =
    ((layout.push element).1.moved offset, (layout.push element).2) at pushed
  rw [pushed]
  exact ⟨rfl, .of_eq rfl⟩

theorem addLine_moved (spec : LineSpec ℚ) :
    Follows offset (layout.addLine spec) ((layout.moved offset).addLine (spec.moved offset)) := by
  have prepared := layout.prepareLine_moved offset spec
  unfold addLine
  generalize layout.prepareLine spec = action at prepared
  generalize (layout.moved offset).prepareLine (spec.moved offset) = other at prepared
  cases prepared with
  | error code => exact ⟨rfl, .error code⟩
  | ok line =>
      have pushed := push_moved ((layout.markRight line.start.attachment).markLeft
        line.finish.attachment) offset (.line line)
      rwa [← markLeft_moved, ← markRight_moved] at pushed

theorem addConnector_moved (spec : ConnectorSpec ℚ) :
    Follows offset (layout.addConnector spec) ((layout.moved offset).addConnector spec) := by
  have prepared := layout.prepareConnector_moved offset spec
  unfold addConnector
  generalize layout.prepareConnector spec = action at prepared
  generalize (layout.moved offset).prepareConnector spec = other at prepared
  cases prepared with
  | error code => exact ⟨rfl, .error code⟩
  | ok connector =>
      have pushed := push_moved ((layout.markRight connector.start.attachment).markRight
        connector.finish.attachment) offset (.connector connector)
      rwa [← markRight_moved, ← markRight_moved] at pushed

theorem add_moved (spec : ElementSpec ℚ) :
    Follows offset (layout.add spec) ((layout.moved offset).add (spec.moved offset)) := by
  cases spec with
  | line spec => exact layout.addLine_moved offset spec
  | connector spec => exact layout.addConnector_moved offset spec

theorem addAll_moved (layout : Layout ℚ) (offset : Point ℚ) (specs : List (ElementSpec ℚ)) :
    Corresponds (Layout.moved offset) (layout.addAll specs)
      ((layout.moved offset).addAll (specs.map (·.moved offset))) := by
  induction specs generalizing layout with
  | nil => exact .ok layout
  | cons spec specs ih =>
      have added := layout.add_moved offset spec
      simp only [List.map_cons, addAll]
      generalize layout.add spec = done at added
      generalize (layout.moved offset).add (spec.moved offset) = other at added
      obtain ⟨next, outcome⟩ := done
      obtain ⟨moved, followed⟩ := other
      obtain ⟨rfl, corresponds⟩ := added
      cases corresponds with
      | error code => exact .error code
      | ok handle => exact ih next

section Centering

theorem center_moved (present : layout.elements.filterMap Element.asLine? ≠ []) :
    (layout.moved offset).center = layout.center := by
  have lines : (layout.moved offset).elements.filterMap Element.asLine? =
      (layout.elements.filterMap Element.asLine?).map (Line.moved offset) :=
    lines_shift offset layout.elements
  have cancel : ∀ center : Point ℚ,
      offset.add ⟨-(center.add offset).x, -(center.add offset).y⟩ = ⟨-center.x, -center.y⟩ := by
    intro center
    simp only [Point.add, Point.mk.injEq]
    exact ⟨by ring, by ring⟩
  have bounds : ∀ (bounds : Bounds ℚ) (more : Point ℚ),
      (bounds.shift offset).shift more = bounds.shift (offset.add more) := by
    intro bounds more
    simp only [Bounds.shift, Point.add_add]
  simp only [center, lines, boundsOf_moved offset present, bounds_shift_center, bounds, cancel]
  simp only [moved, mapElements, List.map_map, Function.comp_def, Element.shift_shift, cancel]

end Centering

end Layout

/-- Where there are elements there are lines, since connectors are attached to lines. -/
theorem Layout.Consistent.lines_ne_nil {layout : Layout ℚ} (consistent : layout.Consistent)
    (present : layout.elements ≠ []) : layout.elements.filterMap Element.asLine? ≠ [] := by
  have known : ∃ (handle : Nat) (line : Line ℚ), layout.elements[handle]? = some (.line line) := by
    obtain ⟨element, elements, same⟩ := List.exists_cons_of_ne_nil present
    have first : layout.elements[0]? = some element := by rw [same]; rfl
    cases element with
    | line line => exact ⟨0, line, first⟩
    | connector connector =>
        obtain ⟨attachment, line, _, found⟩ :=
          (consistent.placed 0 _ first).connects connector rfl .start
        exact ⟨attachment.target, line, Layout.line?_eq_some_iff.mp found⟩
  obtain ⟨handle, line, found⟩ := known
  exact List.ne_nil_of_mem (List.mem_filterMap.mpr ⟨_, List.mem_of_getElem? found, rfl⟩)

theorem Layout.Reached.center_moved {thickness : Option ℚ} {layout : Layout ℚ}
    (reached : layout.Reached thickness) (offset : Point ℚ) :
    (layout.moved offset).center = layout.center := by
  by_cases empty : layout.elements = []
  · have same : layout.moved offset = layout := by
      simp only [Layout.moved, Layout.mapElements, empty, List.map_nil]
      rw [← empty]
    rw [same]
  · exact layout.center_moved offset (reached.consistent.lines_ne_nil empty)

namespace Scene

variable (offset : Point ℚ)

theorem place_moved (description : Description ℚ) :
    Corresponds id (place description.geometry) (place (description.moved offset).geometry) := by
  have reached : ∀ result, (Layout.empty description.geometry.thickness).addAll
      description.geometry.elements = .ok result →
      result.Reached description.geometry.thickness := fun result => Layout.Reached.empty.addAll
  have added := (Layout.empty description.geometry.thickness).addAll_moved offset
    description.geometry.elements
  unfold place
  change Corresponds id _ (((Layout.empty _).moved offset).addAll
    (description.geometry.elements.map (·.moved offset)) >>= fun layout => .ok layout.center)
  generalize (Layout.empty description.geometry.thickness).addAll _ = action at added reached ⊢
  generalize ((Layout.empty description.geometry.thickness).moved offset).addAll _ = other
    at added ⊢
  cases added with
  | error code => exact .error code
  | ok layout => exact .of_eq (congrArg Except.ok ((reached layout rfl).center_moved offset))

theorem build_moved (description : Description ℚ) (settings : Settings ℚ) :
    Corresponds id (build description settings) (build (description.moved offset) settings) := by
  have listed : Diagnostics.empty.checkListed .noElements "elements"
      (description.moved offset).geometry.elements =
        Diagnostics.empty.checkListed .noElements "elements" description.geometry.elements := by
    simp only [Diagnostics.checkListed, Description.moved, List.isEmpty_map]
  unfold build
  refine Corresponds.bind_same fun _ => ?_
  dsimp only
  rw [listed]
  exact (place_moved offset description).bind fun placed => .of_eq rfl

/-- A structure that is moved as a whole gives the same scene, and so the same program, or is
refused for the same cause. -/
theorem build_translation_invariant (description : Description ℚ) (settings : Settings ℚ)
    (offset : Point ℚ) :
    (∃ scene, build description settings = .ok scene ∧
        build (description.moved offset) settings = .ok scene ∧
        ∀ renderer time,
          Program.ofDescription (description.moved offset) renderer settings time =
            Program.ofDescription description renderer settings time) ∨
      ∃ failure other, build description settings = .error failure ∧
        build (description.moved offset) settings = .error other ∧ other.code = failure.code := by
  have corresponds := build_moved offset description settings
  generalize original : build description settings = action at corresponds
  generalize moved : build (description.moved offset) settings = other at corresponds
  cases corresponds with
  | error code => exact Or.inr ⟨_, _, rfl, rfl, code⟩
  | ok scene =>
      refine Or.inl ⟨scene, rfl, rfl, fun renderer time => ?_⟩
      unfold Program.ofDescription
      rw [original, moved]
      rfl

/-- Both lines are moved, centered back and then cut where they overlap. -/
example :
    let lines (description : Description ℚ) := (build description .default).toOption.map fun scene =>
      scene.layout.lines.map fun entry => (entry.2.minX, entry.2.maxX, entry.2.y)
    lines overlappedEnd = some [(-25, -15, -7 / 2), (-15, 5, 7 / 2), (-15, 5, -7 / 2),
        (5, 25, 7 / 2)] ∧
      lines (overlappedEnd.moved ⟨100, -3⟩) = lines overlappedEnd := by
  decide +kernel

end Scene

end Waveguide
