import Mathlib
import Waveguide.Proofs.Additions

/-!
What the elements of a scene are drawn with. All of them lie in the slab of the layout, and every
connector joins two lines, which stay at their places however they are moved and cut. Comments stay
with the elements they were declared with.
-/

namespace Waveguide

variable {K : Type}

def Layout.Joins (layout : Layout K) (endpoint : Endpoint K) : Prop :=
  ∃ attachment line, endpoint.attachment = some attachment ∧
    layout.line? attachment.target = some line

inductive Element.Fits (layout : Layout K) : Element K → Prop
  | line {line : Line K} : line.elevation = layout.thickness → Element.Fits layout (.line line)
  | connector {connector : Connector K} : connector.elevation = layout.thickness →
      layout.Joins connector.start → layout.Joins connector.finish →
      Element.Fits layout (.connector connector)

def ElementSpec.comment : ElementSpec K → Option String
  | .line spec => spec.comment
  | .connector spec => spec.comment

namespace Element.Fits

variable {layout other : Layout K} {element changed : Element K}

theorem mono (fits : element.Fits layout) (thickness : other.thickness = layout.thickness)
    (lines : ∀ handle line, layout.line? handle = some line →
      ∃ line, other.line? handle = some line) : element.Fits other := by
  have joins : ∀ {endpoint : Endpoint K}, layout.Joins endpoint → other.Joins endpoint := by
    rintro endpoint ⟨attachment, line, attached, found⟩
    obtain ⟨line, found⟩ := lines _ _ found
    exact ⟨attachment, line, attached, found⟩
  cases fits with
  | line level => exact .line (level.trans thickness.symm)
  | connector level start finish =>
      exact .connector (level.trans thickness.symm) (joins start) (joins finish)

theorem modifyTip_iff (element : Element K) {change : Endpoint K → Endpoint K}
    (attachment : ∀ point, (change point).attachment = point.attachment) (tip : Tip) :
    (element.modifyTip change tip).Fits layout ↔ element.Fits layout := by
  have joins : ∀ point, layout.Joins (change point) ↔ layout.Joins point := by
    intro point
    simp only [Layout.Joins, attachment]
  cases element with
  | line placed =>
      cases tip with
      | start => exact ⟨fun | .line level => .line level, fun | .line level => .line level⟩
      | finish => exact ⟨fun | .line level => .line level, fun | .line level => .line level⟩
  | connector placed =>
      cases tip with
      | start =>
          exact ⟨
            fun | .connector level start finish => .connector level ((joins _).mp start) finish,
            fun | .connector level start finish => .connector level ((joins _).mpr start) finish⟩
      | finish =>
          exact ⟨
            fun | .connector level start finish => .connector level start ((joins _).mp finish),
            fun | .connector level start finish => .connector level start ((joins _).mpr finish)⟩

theorem unmarked_iff (element : Element K) :
    element.unmarked.Fits layout ↔ element.Fits layout := by
  have marks : ∀ point : Endpoint K, point.unmarked.attachment = point.attachment := fun _ => rfl
  rw [unmarked, modifyTip_iff _ marks, modifyTip_iff _ marks]

theorem shift_iff [Scalar K] (element : Element K) (offset : Point K) :
    (element.shift offset).Fits layout ↔ element.Fits layout := by
  have moves : ∀ point : Endpoint K, (point.shift offset).attachment = point.attachment :=
    fun _ => rfl
  rw [shift, modifyTip_iff _ moves, modifyTip_iff _ moves]

end Element.Fits

theorem Element.comment_modifyTip (element : Element K) (change : Endpoint K → Endpoint K)
    (tip : Tip) : (element.modifyTip change tip).comment = element.comment := by
  cases element with
  | line placed => cases tip <;> rfl
  | connector placed => cases tip <;> rfl

theorem Element.comment_unmarked (element : Element K) :
    element.unmarked.comment = element.comment := by
  rw [unmarked, comment_modifyTip, comment_modifyTip]

theorem Element.comment_shift [Scalar K] (element : Element K) (offset : Point K) :
    (element.shift offset).comment = element.comment := by
  rw [shift, comment_modifyTip, comment_modifyTip]

namespace Layout

def Fitted (layout : Layout K) : Prop := ∀ element ∈ layout.elements, element.Fits layout

def comments (layout : Layout K) : List (Option String) := layout.elements.map Element.comment

section Additions

variable {layout next : Layout K} {element : Element K}

theorem Addition.map_eq {α : Type} (addition : layout.Addition element next)
    {view : Element K → α} (blind : ∀ element, view element.unmarked = view element) :
    next.elements.map view = layout.elements.map view ++ [view element] := by
  apply List.ext_getElem?
  intro place
  simp only [List.getElem?_map]
  rcases Nat.lt_trichotomy place layout.elements.length with before | rfl | after
  · rw [List.getElem?_append_left (by simpa using before), List.getElem?_map]
    have found := List.getElem?_eq_getElem before
    obtain ⟨new, placed, marked⟩ := addition.earlier place _ found
    rw [placed, found, Option.map_some, Option.map_some, ← blind new, marked.same, blind]
  · rw [addition.last]
    simp
  · have beyond : next.elements.length ≤ place := addition.count ▸ after
    have outside : (layout.elements.map view ++ [view element]).length ≤ place := by
      simpa using after
    rw [List.getElem?_eq_none beyond, List.getElem?_eq_none outside, Option.map_none]

theorem Addition.line? (addition : layout.Addition element next) {handle : Nat} {line : Line K}
    (found : layout.line? handle = some line) : ∃ line, next.line? handle = some line := by
  obtain ⟨new, placed, marked⟩ := addition.earlier _ _ (line?_eq_some_iff.mp found)
  have same := marked.same
  cases new with
  | line now => exact ⟨now, line?_eq_some_iff.mpr placed⟩
  | connector now => simp [Element.unmarked, Element.modifyTip] at same

theorem Addition.fitted (addition : layout.Addition element next) (fitted : layout.Fitted)
    (fits : element.Fits layout) : next.Fitted := by
  intro new member
  obtain ⟨place, found⟩ := List.mem_iff_getElem?.mp member
  have before : new.Fits layout := by
    rcases Nat.lt_or_ge place layout.elements.length with earlier | last
    · have old := List.getElem?_eq_getElem earlier
      obtain ⟨marked, placed, same⟩ := addition.earlier place _ old
      obtain rfl := Option.some.inj (found.symm.trans placed)
      rw [← Element.Fits.unmarked_iff, same.same, Element.Fits.unmarked_iff]
      exact fitted _ (List.getElem_mem earlier)
    · have bound := (List.getElem?_eq_some_iff.mp found).1
      rw [addition.count] at bound
      obtain rfl : place = layout.elements.length := by omega
      obtain rfl := Option.some.inj (found.symm.trans addition.last)
      exact fits
  exact before.mono addition.thickness fun _ _ => addition.line?

end Additions

section Add

variable [Scalar K] {layout : Layout K}

omit [Scalar K] in
theorem connectorTip_joins {id : String} {tip : Tip} {point : Point K} {attachment : Attachment K}
    (found : layout.connectorTip id tip = .ok (point, some attachment)) :
    ∃ line, layout.line? attachment.target = some line ∧
      attachment.width = line.property.width ∧
      point = ((Element.line line).tip attachment.tip).position := by
  rw [connectorTip_eq, Resolver.attach_eq, map_eq_ok] at found
  obtain ⟨resolved, attached, result⟩ := found
  obtain ⟨⟨handle, element⟩, known, rfl⟩ := map_eq_ok.mp attached
  obtain ⟨position, kind⟩ := Prod.mk.inj result
  obtain ⟨given, isLine⟩ := Option.filter_eq_some_iff.mp kind
  obtain rfl := Option.some.inj given
  cases element with
  | connector placed => simp [Element.kind] at isLine
  | line placed =>
      exact ⟨placed, line?_eq_some_iff.mpr (Resolver.lookup_ok.mp known).2, rfl, position.symm⟩

theorem prepare_fits {spec : ElementSpec K} {element : Element K}
    (prepared : layout.prepare spec = .ok element) :
    element.Fits layout ∧ element.comment = spec.comment := by
  cases spec with
  | line spec =>
      obtain ⟨line, made, rfl⟩ := map_eq_ok.mp prepared
      have known := prepareLine_made made
      exact ⟨.line known.elevation, known.comment⟩
  | connector spec =>
      obtain ⟨connector, made, rfl⟩ := map_eq_ok.mp prepared
      have known := prepareConnector_made made
      obtain ⟨_, _, _, first, startFound, start⟩ := known.start
      obtain ⟨_, _, _, last, finishFound, finish⟩ := known.finish
      obtain ⟨startLine, startJoined, _⟩ := connectorTip_joins startFound
      obtain ⟨finishLine, finishJoined, _⟩ := connectorTip_joins finishFound
      exact ⟨.connector known.elevation ⟨first, startLine, start, startJoined⟩
        ⟨last, finishLine, finish, finishJoined⟩, known.comment⟩

end Add

/-- A layout whose elements fit, with its thickness and what its elements are commented with. -/
structure Outfit (layout : Layout K) (thickness : Option K) (comments : List (Option String)) :
    Prop where
  fitted : layout.Fitted
  thickness : layout.thickness = thickness
  comments : layout.comments = comments

namespace Outfit

variable {layout : Layout K} {thickness : Option K} {comments : List (Option String)}

theorem empty [Scalar K] (thickness : Option K) : (Layout.empty thickness).Outfit thickness [] :=
  ⟨fun _ impossible => absurd impossible List.not_mem_nil, rfl, rfl⟩

theorem addition (outfit : layout.Outfit thickness comments) {element : Element K}
    {next : Layout K} (fits : element.Fits layout) (addition : layout.Addition element next) :
    next.Outfit thickness (comments ++ [element.comment]) where
  fitted := addition.fitted outfit.fitted fits
  thickness := addition.thickness.trans outfit.thickness
  comments := by rw [Layout.comments, addition.map_eq Element.comment_unmarked, ← outfit.comments,
    Layout.comments]

theorem addAll [Numeral K] (outfit : layout.Outfit thickness comments) {result : Layout K}
    {specs : List (ElementSpec K)} (done : layout.addAll specs = .ok result) :
    result.Outfit thickness (comments ++ specs.map ElementSpec.comment) := by
  induction specs generalizing layout comments with
  | nil =>
      obtain rfl := Except.ok.inj done
      simpa using outfit
  | cons spec specs ih =>
      rw [Layout.addAll] at done
      cases prepared : layout.prepare spec with
      | error failure => simp [add_refused prepared] at done
      | ok element =>
          obtain ⟨_, next, addition, added⟩ := add_admitted prepared
          obtain ⟨fits, comment⟩ := prepare_fits prepared
          rw [added] at done
          rw [List.map_cons, ← comment, List.append_cons]
          exact ih (outfit.addition fits addition) done

theorem center [Scalar K] (outfit : layout.Outfit thickness comments) :
    layout.center.Outfit thickness comments where
  fitted := by
    obtain ⟨offset, moved⟩ : ∃ offset, layout.center.elements =
        layout.elements.map (·.shift offset) := ⟨_, rfl⟩
    intro element member
    rw [moved] at member
    obtain ⟨before, known, rfl⟩ := List.mem_map.mp member
    have fits := (Element.Fits.shift_iff before offset).mpr (outfit.fitted before known)
    refine fits.mono rfl ?_
    intro handle line found
    refine ⟨{ line with start := line.start.shift offset, finish := line.finish.shift offset }, ?_⟩
    rw [line?_eq_some_iff, moved, List.getElem?_map, line?_eq_some_iff.mp found]
    rfl
  thickness := outfit.thickness
  comments := by
    rw [← outfit.comments, Layout.comments, Layout.comments]
    simp only [Layout.center, List.map_map, Function.comp_def, Element.comment_shift]

section Settle

variable {handle : Nat} {line : Line K}

theorem setLine (outfit : layout.Outfit thickness comments)
    (found : layout.line? handle = some line) {new : Line K}
    (elevation : new.elevation = line.elevation) (comment : new.comment = line.comment) :
    (layout.setLine handle new).Outfit thickness comments := by
  have bound := line?_bound found
  have placed := line?_eq_some_iff.mp found
  have lines : ∀ other old, layout.line? other = some old →
      ∃ now, (layout.setLine handle new).line? other = some now := by
    intro other old known
    rw [line?_setLine _ bound]
    split
    · exact ⟨_, rfl⟩
    · exact ⟨old, known⟩
  refine ⟨?_, outfit.thickness, ?_⟩
  · intro element member
    rcases List.mem_or_eq_of_mem_set member with old | rfl
    · exact (outfit.fitted element old).mono rfl lines
    · cases outfit.fitted _ (List.mem_of_getElem? placed) with
      | line level => exact .line (elevation.trans level)
  · rw [← outfit.comments]
    exact map_elements_setLine Element.comment found comment

theorem append (outfit : layout.Outfit thickness comments) {element : Element K}
    (fits : element.Fits layout) :
    ({ layout with elements := layout.elements ++ [element] } : Layout K).Outfit thickness
      (comments ++ [element.comment]) := by
  refine ⟨?_, outfit.thickness, ?_⟩
  · intro other member
    have before : other.Fits layout := by
      rcases List.mem_append.mp member with old | new
      · exact outfit.fitted other old
      · exact List.mem_singleton.mp new ▸ fits
    refine before.mono rfl fun handle line found => ⟨line, ?_⟩
    have placed := line?_eq_some_iff.mp found
    exact line?_eq_some_iff.mpr ((List.getElem?_append_left (line?_bound found)).trans placed)
  · rw [← outfit.comments, Layout.comments, Layout.comments, List.map_append]
    rfl

theorem afterCut [Scalar K] (outfit : layout.Outfit thickness comments)
    (found : layout.line? handle = some line) (x : K) :
    (layout.afterCut handle (line.leftPart x) (line.rightPart x handle)).Outfit thickness
      (comments ++ [none]) := by
  have left : (layout.setLine handle (line.leftPart x)).Outfit thickness comments :=
    outfit.setLine found rfl rfl
  have fits : (Element.line (line.rightPart x handle)).Fits
      (layout.setLine handle (line.leftPart x)) := by
    cases outfit.fitted _ (List.mem_of_getElem? (line?_eq_some_iff.mp found)) with
    | line level => exact .line level
  exact left.append fits

theorem settle [Scalar K] (outfit : layout.Outfit thickness comments) :
    ∃ fragments, layout.settle.1.Outfit thickness (comments ++ List.replicate fragments none) := by
  refine settleWithin_preserves (motive := fun state => ∃ fragments,
    state.Outfit thickness (comments ++ List.replicate fragments none)) ?_ ?_ _ _ ⟨0, by simpa⟩
  · rintro state handle line ⟨fragments, before⟩ found clearance
    exact ⟨fragments, before.setLine found rfl rfl⟩
  · rintro state handle line ⟨fragments, before⟩ found x
    refine ⟨fragments + 1, ?_⟩
    rw [List.replicate_succ', ← List.append_assoc]
    exact before.afterCut found x

end Settle

end Outfit

end Layout

namespace Scene

variable [Numeral K]

theorem place_outfit {geometry : GeometrySpec K} {placed : Layout K}
    (done : place geometry = .ok placed) :
    placed.Outfit geometry.thickness (geometry.elements.map ElementSpec.comment) := by
  simp only [place, bind_eq_ok] at done
  obtain ⟨layout, added, result⟩ := done
  obtain rfl := Except.ok.inj result
  exact ((Layout.Outfit.empty geometry.thickness).addAll added).center

/-- What a scene has in common with its description: its elements fit, and every part stands in the
order of the declarations with the comment that it was declared with. -/
structure Follows (description : Description K) (settings : Settings K) (scene : Scene K) :
    Prop where
  comment : scene.comment = description.comment
  thickness : scene.thickness = description.geometry.thickness
  elements : ∃ fragments, scene.layout.Outfit scene.thickness
    (description.geometry.elements.map ElementSpec.comment ++ List.replicate fragments none)
  sources : List.Forall₂
    (fun spec source => source.comment = spec.comment ∧ source.property = spec.property)
    description.sources scene.sources
  fluxes : List.Forall₂
    (fun spec flux => flux.comment = spec.comment ∧ flux.property = spec.property)
    description.collectors.spectral scene.fluxes
  transients : ∃ observed,
    SnapshotFirst description.controls.snapshot settings.snapshotInterval scene.transients
      observed ∧
    List.Forall₂
      (fun spec transient => transient.comment = spec.comment ∧
        transient.component = spec.component ∧ transient.field = spec.field ∧
        transient.interval = spec.interval.getD settings.snapshotInterval ∧
        transient.position.isSome = spec.position.isSome)
      description.collectors.temporal observed

theorem build_follows {description : Description K} {settings : Settings K} {scene : Scene K}
    (built : build description settings = .ok scene) : scene.Follows description settings := by
  simp only [build, bind_eq_ok] at built
  obtain ⟨_, _, placed, placedOk, cuts, settled, ⟨sources, _⟩, sourcesPlaced, ⟨fluxes, _⟩,
    fluxesPlaced, ⟨transients, _⟩, transientsPlaced, result⟩ := built
  obtain rfl := Except.ok.inj result
  refine ⟨rfl, rfl, (place_outfit placedOk).settle, ?_, ?_, transients,
    snapshotFirst_snapshots .., ?_⟩
  · refine (placeAll_ok sourcesPlaced).imp ?_
    rintro spec source ⟨_, _, done⟩
    simp only [placeSource, bind_eq_ok] at done
    obtain ⟨_, _, result⟩ := done
    obtain ⟨rfl, _⟩ := Prod.mk.inj (Except.ok.inj result)
    exact ⟨rfl, rfl⟩
  · refine (placeAll_ok fluxesPlaced).imp ?_
    rintro spec flux ⟨_, _, done⟩
    simp only [placeFlux, bind_eq_ok] at done
    obtain ⟨_, _, result⟩ := done
    obtain ⟨rfl, _⟩ := Prod.mk.inj (Except.ok.inj result)
    exact ⟨rfl, rfl⟩
  · refine (placeAll_ok transientsPlaced).imp ?_
    rintro spec transient ⟨_, _, done⟩
    simp only [placeTransient] at done
    split at done
    · rename_i nowhere
      obtain ⟨rfl, _⟩ := Prod.mk.inj (Except.ok.inj done)
      exact ⟨rfl, rfl, rfl, rfl, by rw [nowhere]; rfl⟩
    · rename_i somewhere
      simp only [bind_eq_ok] at done
      obtain ⟨_, _, result⟩ := done
      obtain ⟨rfl, _⟩ := Prod.mk.inj (Except.ok.inj result)
      exact ⟨rfl, rfl, rfl, rfl, by rw [somewhere]; rfl⟩

end Scene

end Waveguide
