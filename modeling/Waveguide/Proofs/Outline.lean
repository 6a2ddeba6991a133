import Mathlib
import Waveguide.Program
import Waveguide.Proofs.Built
import Waveguide.Proofs.Points

/-!
The outline of a program: its lines before any template is rendered. A line is a row of clauses, and
a clause is a template with what fills its places.
-/

namespace Waveguide

theorem bind_eq_error {ε α β : Type} {action : Except ε α} {next : α → Except ε β} {failure : ε} :
    (action >>= next) = .error failure ↔
      action = .error failure ∨ ∃ value, action = .ok value ∧ next value = .error failure := by
  cases action <;> simp [bind, Except.bind]

theorem bind_congr_ok {ε α β : Type} {action : Except ε α} {next other : α → Except ε β}
    (same : ∀ value, action = .ok value → next value = other value) :
    (action >>= next) = action >>= other := by
  cases known : action with
  | error failure => rfl
  | ok value => exact same value known

theorem map_eq_error {ε α β : Type} {action : Except ε α} {next : α → β} {failure : ε} :
    action.map next = .error failure ↔ action = .error failure := by
  cases action <;> simp [Except.map]

theorem mapM_eq_ok {ε α β : Type} {check : α → Except ε β} {items : List α} {results : List β} :
    items.mapM check = .ok results ↔
      List.Forall₂ (fun item result => check item = .ok result) items results := by
  induction items generalizing results with
  | nil => simp [pure, Except.pure, eq_comm]
  | cons item items ih =>
      simp only [List.mapM_cons, bind_eq_ok, ih, List.forall₂_cons_left_iff]
      constructor
      · rintro ⟨first, here, others, rest, result⟩
        exact ⟨first, others, here, rest, (Except.ok.inj result).symm⟩
      · rintro ⟨first, others, here, rest, rfl⟩
        exact ⟨first, here, others, rest, rfl⟩

theorem mapM_eq_error {ε α β : Type} {check : α → Except ε β} {items : List α} {failure : ε}
    (failed : items.mapM check = .error failure) : ∃ item ∈ items, check item = .error failure := by
  induction items with
  | nil => simp [pure, Except.pure] at failed
  | cons item items ih =>
      simp only [List.mapM_cons, bind_eq_error] at failed
      rcases failed with here | ⟨_, _, later | ⟨_, _, impossible⟩⟩
      · exact ⟨item, List.mem_cons_self, here⟩
      · obtain ⟨other, member, there⟩ := ih later
        exact ⟨other, List.mem_cons_of_mem _ member, there⟩
      · simp [pure, Except.pure] at impossible

theorem mapM_congr_mem {ε α β : Type} {check other : α → Except ε β} {items : List α}
    (same : ∀ item ∈ items, check item = other item) : items.mapM check = items.mapM other := by
  induction items with
  | nil => rfl
  | cons item items ih =>
      rw [List.forall_mem_cons] at same
      rw [List.mapM_cons, List.mapM_cons, same.1, ih same.2]

namespace Program

structure Phrase (K : Type) where
  template : String
  slots : List (Slot K)

/-- What fills a place of a clause: a value, or the text of some phrases. -/
inductive Argument (K : Type) where
  | slot (slot : Slot K)
  | phrases (phrases : List (Phrase K))

structure Clause (K : Type) where
  template : String
  arguments : List (Argument K)

abbrev Row (K : Type) := List (Clause K)

/-- A template that is rendered, with the number of values it is given. -/
abbrev Call := String × Nat

variable {K : Type}

def Phrase.call (phrase : Phrase K) : Call := (phrase.template, phrase.slots.length)

def Argument.calls : Argument K → List Call
  | .slot _ => []
  | .phrases given => given.map Phrase.call

def Clause.calls (clause : Clause K) : List Call :=
  clause.arguments.flatMap Argument.calls ++ [(clause.template, clause.arguments.length)]

def Row.calls (row : Row K) : List Call := row.flatMap Clause.calls

def Clause.plain (template : String) (slots : List (Slot K)) : Clause K :=
  ⟨template, slots.map .slot⟩

section Rows

variable [Numeral K]

def remark (text : Argument K) : Row K := [⟨"comment", [text]⟩]

def remarkRows (comment : Option String) : List (Row K) :=
  comment.toList.map fun text => remark (.slot (.text text))

def headerRows (time inputName : String) (comment : Option String) : List (Row K) :=
  [remark (.phrases [⟨"intro", []⟩]),
    remark (.phrases [⟨"generated", [.text time]⟩]),
    remark (.phrases [⟨"base", [.text inputName]⟩])] ++ remarkRows comment

def cellRow (scene : Scene K) : Row K :=
  let size := cellSize scene
  match scene.thickness with
  | some thickness =>
      [.plain "geometry_3d"
        [.number size.x, .number size.y, .number (thickness + 2.0 * scene.overshot)]]
  | none => [.plain "geometry" [.number size.x, .number size.y]]

def positionClause (block : Block K) : Clause K :=
  let center := block.center
  let size := block.size
  let place : List (Slot K) := [.number center.x, .number center.y, .number size.x, .number size.y]
  match block.thickness with
  | some thickness => .plain "block_position_3d" (place ++ [.number thickness])
  | none => .plain "block_position" place

def blockRow (block : Block K) : Row K :=
  [.plain "block_head" [], positionClause block,
    .plain block.medium.template.1 (block.medium.template.2.map .number), .plain "block_tail" []]

def drawn (layout : Layout K) (element : Element K) : List (Block K) :=
  (elementBlocks layout element).toOption.getD []

def elementRows (layout : Layout K) (element : Element K) : List (Row K) :=
  remarkRows element.comment ++ (drawn layout element).map blockRow

def geometryRows (scene : Scene K) : List (Row K) :=
  [[.plain "geometry_head" []]] ++ scene.layout.elements.flatMap (elementRows scene.layout) ++
    [[.plain "geometry_tail" []]]

def sourceRow (source : Source K) : Row K :=
  [.plain "source_head" [],
    .plain "source_component" [.text source.property.component],
    .plain "source_position" (aperture source.position source.width),
    .plain (Profile.template source.property.profile)
      [.number source.property.center, .number source.property.width],
    .plain "source_tail" []]

def sourceRows (scene : Scene K) : List (Row K) :=
  [[.plain "sources_head" []]] ++
    scene.sources.flatMap (fun source => remarkRows source.comment ++ [sourceRow source]) ++
    [[.plain "sources_tail" []]]

def controlRows (scene : Scene K) : List (Row K) :=
  [[.plain "pml" []], [.plain "resolution" [.number scene.resolution]]] ++
    if scene.complex then [[.plain "complex" []]] else []

def fluxRow (number : Nat) (flux : FluxPoint K) : Row K :=
  [.plain "flux_head" [.integer number],
    .plain "flux_prop" [.number flux.property.center, .number flux.property.width,
      .integer flux.property.resolution],
    .plain "flux_position" (aperture flux.position flux.width),
    .plain "flux_tail" []]

def fluxRows (number : Nat) (flux : FluxPoint K) : List (Row K) :=
  remarkRows flux.comment ++ [fluxRow number flux]

def transientName (number : Nat) : String := "transient" ++ Nat.repr number

def snapshotClause (number : Nat) (transient : Transient K) : Clause K :=
  let subject := transient.field ++ transient.component
  match transient.position with
  | none =>
      .plain "snapshot_global"
        [.text subject, .number transient.interval, .text transient.field,
          .text transient.component]
  | some position =>
      .plain "snapshot_local"
        [.text (subject ++ "-" ++ Nat.repr number), .number transient.interval,
          .text transient.field, .text transient.component, .number position.x,
          .number position.y]

def transientRow (number : Nat) (transient : Transient K) : Row K :=
  [.plain "function_head" [.text (transientName number)], snapshotClause number transient,
    .plain "function_tail" []]

def transientRows (number : Nat) (transient : Transient K) : List (Row K) :=
  remarkRows transient.comment ++ [transientRow number transient]

def numbered {α : Type} (rows : Nat → α → List (Row K)) (first : Nat) (items : List α) :
    List (Row K) :=
  (items.zipIdx first).flatMap fun entry => rows entry.2 entry.1

def stepPhrase (number : Nat) : Phrase K := ⟨"function_ref", [.text (transientName number)]⟩

def runRow (scene : Scene K) : Row K :=
  let steps : Argument K := .phrases ((List.range scene.transients.length).map stepPhrase)
  match scene.run with
  | .decay position =>
      [⟨"time_decay", [steps, .slot (.number scene.duration), .slot (.number position.x),
        .slot (.number position.y)]⟩]
  | .structureOnly | .fixed => [⟨"time_fixed", [.slot (.number scene.duration), steps]⟩]

def displayRow (scene : Scene K) : Row K :=
  [.plain "fluxes_head" []] ++
    (List.range scene.fluxes.length).map (fun number => .plain "flux_ref" [.integer number]) ++
    [.plain "fluxes_tail" []]

def definitionRows (settings : Settings K) (time : String) (scene : Scene K) : List (Row K) :=
  headerRows time settings.inputName scene.comment ++ [cellRow scene] ++ geometryRows scene ++
    sourceRows scene ++ controlRows scene ++ numbered fluxRows 0 scene.fluxes ++
    numbered transientRows 0 scene.transients

def outline (settings : Settings K) (time : String) (scene : Scene K) : List (Row K) :=
  definitionRows settings time scene ++ [runRow scene, displayRow scene]

end Rows

section Rendering

variable (renderer : Renderer K)

def Phrase.render (phrase : Phrase K) : Except (Failure K) String :=
  renderer phrase.template phrase.slots

def Argument.fill : Argument K → Except (Failure K) (Slot K)
  | .slot given => .ok given
  | .phrases given =>
      (given.mapM (Phrase.render renderer)).map fun texts => .text (String.join texts)

def Clause.render (clause : Clause K) : Except (Failure K) String := do
  let slots ← clause.arguments.mapM (Argument.fill renderer)
  renderer clause.template slots

def Row.render (row : Row K) : Except (Failure K) String :=
  (row.mapM (Clause.render renderer)).map String.join

def Faults (calls : List Call) (failure : Failure K) : Prop :=
  ∃ (template : String) (slots : List (Slot K)), (template, slots.length) ∈ calls ∧
    renderer template slots = .error failure

variable {renderer}

theorem Faults.mono {calls others : List Call} {failure : Failure K}
    (faults : Faults renderer calls failure) (sub : calls ⊆ others) :
    Faults renderer others failure := by
  obtain ⟨template, slots, member, failed⟩ := faults
  exact ⟨template, slots, sub member, failed⟩

theorem Argument.fill_faults {argument : Argument K} {failure : Failure K}
    (failed : argument.fill renderer = .error failure) :
    Faults renderer argument.calls failure := by
  cases argument with
  | slot given => contradiction
  | phrases given =>
      obtain ⟨phrase, member, failed⟩ := mapM_eq_error (map_eq_error.mp failed)
      exact ⟨phrase.template, phrase.slots, List.mem_map_of_mem member, failed⟩

theorem Clause.render_faults {clause : Clause K} {failure : Failure K}
    (failed : clause.render renderer = .error failure) :
    Faults renderer clause.calls failure := by
  rcases bind_eq_error.mp failed with unfilled | ⟨slots, filled, failed⟩
  · obtain ⟨argument, member, failed⟩ := mapM_eq_error unfilled
    refine (Argument.fill_faults failed).mono fun call known => ?_
    exact List.mem_append_left _ (List.mem_flatMap.mpr ⟨argument, member, known⟩)
  · refine ⟨clause.template, slots, List.mem_append_right _ ?_, failed⟩
    rw [← (mapM_eq_ok.mp filled).length_eq]
    exact List.mem_singleton.mpr rfl

theorem Row.render_faults {row : Row K} {failure : Failure K}
    (failed : row.render renderer = .error failure) : Faults renderer row.calls failure := by
  obtain ⟨clause, member, faulty⟩ := mapM_eq_error (map_eq_error.mp failed)
  exact (Clause.render_faults faulty).mono fun call known =>
    List.mem_flatMap.mpr ⟨clause, member, known⟩

def Agree (calls : List Call) (first second : Renderer K) : Prop :=
  ∀ template slots, (template, slots.length) ∈ calls → first template slots = second template slots

section Agreement

variable {first second : Renderer K}

theorem Agree.mono {calls others : List Call} (agree : Agree calls first second)
    (sub : others ⊆ calls) : Agree others first second :=
  fun template slots member => agree template slots (sub member)

theorem Argument.fill_agree {argument : Argument K} (agree : Agree argument.calls first second) :
    argument.fill first = argument.fill second := by
  cases argument with
  | slot given => rfl
  | phrases given =>
      have rendered : ∀ phrase ∈ given, phrase.render first = phrase.render second :=
        fun phrase member => agree _ _ (List.mem_map_of_mem member)
      rw [Argument.fill, Argument.fill, mapM_congr_mem rendered]

theorem Clause.render_agree {clause : Clause K} (agree : Agree clause.calls first second) :
    clause.render first = clause.render second := by
  have filled : ∀ argument ∈ clause.arguments, argument.fill first = argument.fill second :=
    fun argument member => Argument.fill_agree <| agree.mono fun call known =>
      List.mem_append_left _ (List.mem_flatMap.mpr ⟨argument, member, known⟩)
  rw [Clause.render, Clause.render, mapM_congr_mem filled]
  refine bind_congr_ok fun slots known => agree _ _ (List.mem_append_right _ ?_)
  rw [← (mapM_eq_ok.mp known).length_eq]
  exact List.mem_singleton.mpr rfl

end Agreement

end Rendering

section Calls

def headerCalls : List Call := [("intro", 0), ("generated", 1), ("base", 1), ("comment", 1)]

def cellCalls : List Call := [("geometry", 2), ("geometry_3d", 3)]

def geometryCalls : List Call :=
  [("geometry_head", 0), ("comment", 1), ("block_head", 0), ("block_position", 4),
    ("block_position_3d", 5), ("block_metal", 2), ("block_dielectric", 1), ("block_tail", 0),
    ("geometry_tail", 0)]

def sourceCalls : List Call :=
  [("sources_head", 0), ("comment", 1), ("source_head", 0), ("source_component", 1),
    ("source_position", 4), ("source_pulse", 2), ("source_continuous", 2), ("source_tail", 0),
    ("sources_tail", 0)]

def controlCalls : List Call := [("pml", 0), ("resolution", 1), ("complex", 0)]

def fluxCalls : List Call :=
  [("comment", 1), ("flux_head", 1), ("flux_prop", 3), ("flux_position", 4), ("flux_tail", 0)]

def transientCalls : List Call :=
  [("comment", 1), ("function_head", 1), ("snapshot_global", 4), ("snapshot_local", 6),
    ("function_tail", 0)]

def runCalls : List Call := [("function_ref", 1), ("time_decay", 4), ("time_fixed", 2)]

def displayCalls : List Call := [("fluxes_head", 0), ("flux_ref", 1), ("fluxes_tail", 0)]

def CallsWithin (rows : List (Row K)) (table : List Call) : Prop :=
  ∀ row ∈ rows, Row.calls row ⊆ table

section Tables

variable {rows others : List (Row K)} {table : List Call}

theorem CallsWithin.append (first : CallsWithin rows table) (second : CallsWithin others table) :
    CallsWithin (rows ++ others) table :=
  List.forall_mem_append.mpr ⟨first, second⟩

theorem CallsWithin.flatMap {α : Type} {items : List α} {rows : α → List (Row K)}
    (each : ∀ item, CallsWithin (rows item) table) :
    CallsWithin (items.flatMap rows) table := by
  intro row member
  obtain ⟨item, _, here⟩ := List.mem_flatMap.mp member
  exact each item row here

theorem CallsWithin.single {row : Row K} (calls : Row.calls row ⊆ table) :
    CallsWithin [row] table :=
  List.forall_mem_singleton.mpr calls

@[simp] theorem Row.calls_nil : Row.calls ([] : Row K) = [] := rfl

@[simp] theorem Row.calls_cons (clause : Clause K) (row : Row K) :
    Row.calls (clause :: row) = clause.calls ++ Row.calls row := rfl

@[simp] theorem Clause.calls_plain (template : String) (slots : List (Slot K)) :
    (Clause.plain template slots).calls = [(template, slots.length)] := by
  have none : (slots.map Argument.slot).flatMap Argument.calls = [] :=
    List.flatMap_eq_nil_iff.mpr fun _ member => by
      obtain ⟨slot, _, rfl⟩ := List.mem_map.mp member
      rfl
  rw [Clause.calls, Clause.plain, none, List.length_map, List.nil_append]

theorem remarkRows_calls (comment : Option String) (listed : ("comment", 1) ∈ table) :
    CallsWithin (K := K) (remarkRows comment) table := by
  cases comment with
  | none => exact List.forall_mem_nil _
  | some text => exact .single (List.cons_subset.mpr ⟨listed, List.nil_subset _⟩)

end Tables

variable [Numeral K]

omit [Numeral K] in
theorem headerRows_calls (time inputName : String) (comment : Option String) :
    CallsWithin (K := K) (headerRows time inputName comment) headerCalls := by
  refine .append ?_ (remarkRows_calls comment (by decide))
  simp [CallsWithin, remark, Clause.calls, Argument.calls, Phrase.call, headerCalls]

theorem cellRow_calls (scene : Scene K) : Row.calls (cellRow scene) ⊆ cellCalls := by
  unfold cellRow
  cases scene.thickness with
  | none => simp [cellCalls]
  | some thickness => simp [cellCalls]

theorem blockRow_calls (block : Block K) : Row.calls (blockRow block) ⊆ geometryCalls := by
  unfold blockRow positionClause
  cases block.thickness <;> cases block.medium <;> simp [Medium.template, geometryCalls]

theorem geometryRows_calls (scene : Scene K) : CallsWithin (geometryRows scene) geometryCalls := by
  refine .append (.append (.single (by simp [geometryCalls])) (.flatMap fun element => ?_))
    (.single (by simp [geometryCalls]))
  refine .append (remarkRows_calls _ (by decide)) ?_
  intro row member
  obtain ⟨block, _, rfl⟩ := List.mem_map.mp member
  exact blockRow_calls block

theorem sourceRows_calls (scene : Scene K) : CallsWithin (sourceRows scene) sourceCalls := by
  refine .append (.append (.single (by simp [sourceCalls])) (.flatMap fun source => ?_))
    (.single (by simp [sourceCalls]))
  refine .append (remarkRows_calls _ (by decide)) (.single ?_)
  unfold sourceRow
  cases source.property.profile <;> simp [Profile.template, aperture, sourceCalls]

omit [Numeral K] in
theorem controlRows_calls (scene : Scene K) : CallsWithin (controlRows scene) controlCalls := by
  unfold controlRows
  cases scene.complex <;> simp [CallsWithin, controlCalls]

theorem fluxRows_calls (number : Nat) (flux : FluxPoint K) :
    CallsWithin (fluxRows number flux) fluxCalls :=
  .append (remarkRows_calls _ (by decide)) (.single (by simp [fluxRow, aperture, fluxCalls]))

omit [Numeral K] in
theorem transientRows_calls (number : Nat) (transient : Transient K) :
    CallsWithin (transientRows number transient) transientCalls := by
  refine .append (remarkRows_calls _ (by decide)) (.single ?_)
  unfold transientRow snapshotClause
  cases transient.position <;> simp [transientCalls]

omit [Numeral K] in
theorem runRow_calls (scene : Scene K) : Row.calls (runRow scene) ⊆ runCalls := by
  have steps : Argument.calls (K := K)
      (.phrases ((List.range scene.transients.length).map stepPhrase)) ⊆ runCalls := by
    intro call known
    simp only [Argument.calls, List.map_map, List.mem_map] at known
    obtain ⟨number, _, rfl⟩ := known
    simp [stepPhrase, Phrase.call, runCalls]
  have slot : ∀ given : Slot K, Argument.calls (.slot given) = [] := fun _ => rfl
  unfold runRow
  cases scene.run <;> simpa [Clause.calls, slot, runCalls] using steps

omit [Numeral K] in
theorem displayRow_calls (scene : Scene K) : Row.calls (displayRow scene) ⊆ displayCalls := by
  intro call known
  simp only [displayRow, Row.calls, List.flatMap_append, List.mem_append, List.flatMap_map,
    List.mem_flatMap, List.flatMap_singleton, Clause.calls_plain, List.mem_singleton] at known
  rcases known with (rfl | ⟨number, _, rfl⟩) | rfl
  · simp [displayCalls]
  · simp [displayCalls]
  · simp [displayCalls]

end Calls

end Program

end Waveguide
