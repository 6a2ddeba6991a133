import Mathlib
import Waveguide.Proofs.Outline
import Waveguide.Proofs.Fittings

/-!
The writer follows the outline. It renders the rows one by one, and closes a line for each; the
numbers and the steps that it notes on the way are those that the last two rows are made of.
-/

namespace Waveguide.Program

variable {K : Type}

section Running

variable {α β : Type}

def outcome (action : Writing K α) (draft : Draft) : Except (Failure K) (α × Draft) :=
  match action.run.run draft with
  | (.ok value, after) => .ok (value, after)
  | (.error failure, _) => .error failure

@[simp] theorem outcome_pure (value : α) (draft : Draft) :
    outcome (pure value : Writing K α) draft = .ok (value, draft) := rfl

@[simp] theorem outcome_bind (action : Writing K α) (next : α → Writing K β) (draft : Draft) :
    outcome (action >>= next) draft =
      outcome action draft >>= fun result => outcome (next result.1) result.2 := by
  rcases ran : action.run.run draft with ⟨value | failure, after⟩
  · simp only [outcome, ExceptT.run_bind, StateT.run_bind, ran]
    rfl
  · simp only [outcome, ExceptT.run_bind, StateT.run_bind, ran]
    rfl

@[simp] theorem outcome_modify (change : Draft → Draft) (draft : Draft) :
    outcome (modify change : Writing K Unit) draft = .ok ((), change draft) := rfl

@[simp] theorem outcome_get (draft : Draft) :
    outcome (get : Writing K Draft) draft = .ok (draft, draft) := rfl

@[simp] theorem outcome_mk (result : Except (Failure K) α) (draft : Draft) :
    outcome (ExceptT.mk (pure result) : Writing K α) draft = result.map (·, draft) := by
  cases result <;> rfl

end Running

section Rows

theorem attachedLine_ok {layout : Layout K} {endpoint : Endpoint K}
    (joins : layout.Joins endpoint) : ∃ line, attachedLine layout endpoint = .ok line := by
  obtain ⟨attachment, line, attached, found⟩ := joins
  exact ⟨line, by simp only [attachedLine, attached, Option.bind_some, found]⟩

variable (renderer : Renderer K)

def writeClause (clause : Clause K) : Writing K Unit := do
  let piece ← ExceptT.mk (pure (clause.render renderer))
  modify fun draft => { draft with current := draft.current ++ piece }

def writeRow (row : Row K) : Writing K Unit := do
  row.forM (writeClause renderer)
  push

def writeRows (rows : List (Row K)) : Writing K Unit := rows.forM (writeRow renderer)

theorem writeRows_nil : writeRows renderer ([] : List (Row K)) = pure () := rfl

theorem writeRows_cons (row : Row K) (rows : List (Row K)) :
    writeRows renderer (row :: rows) =
      writeRow renderer row >>= fun _ => writeRows renderer rows := rfl

theorem writeRows_append (rows others : List (Row K)) :
    writeRows renderer (rows ++ others) =
      writeRows renderer rows >>= fun _ => writeRows renderer others :=
  List.forM_append

theorem writeRows_flatMap {α : Type} {write : α → Writing K Unit} {rows : α → List (Row K)}
    (items : List α) (each : ∀ item ∈ items, write item = writeRows renderer (rows item)) :
    items.forM write = writeRows renderer (items.flatMap rows) := by
  induction items with
  | nil => rfl
  | cons item items ih =>
      obtain ⟨here, later⟩ := List.forall_mem_cons.mp each
      rw [List.flatMap_cons, writeRows_append, ← here, ← ih later]
      rfl

theorem Clause.render_of_fill {clause : Clause K} {slots : List (Slot K)}
    (filled : clause.arguments.mapM (Argument.fill renderer) = .ok slots) :
    clause.render renderer = renderer clause.template slots := by
  rw [Clause.render, filled]
  rfl

theorem Clause.plain_render (template : String) (slots : List (Slot K)) :
    (Clause.plain template slots).render renderer = renderer template slots := by
  have filled : (slots.map Argument.slot).mapM (Argument.fill renderer) = .ok slots := by
    rw [mapM_eq_ok, List.forall₂_map_left_iff]
    exact List.forall₂_same.mpr fun _ _ => rfl
  exact Clause.render_of_fill renderer filled

theorem form_eq (template : String) (slots : List (Slot K)) :
    form renderer template slots = writeClause renderer (.plain template slots) := by
  rw [writeClause, Clause.plain_render]
  rfl

theorem add_eq (template : String) (slots : List (Slot K)) :
    add renderer template slots = writeRow renderer [.plain template slots] := by
  simp only [add, form_eq, writeRow, List.forM_eq_forM, List.forM_cons, List.forM_nil,
    bind_pure_unit]

theorem writeRow_congr {clause other : Clause K}
    (same : clause.render renderer = other.render renderer) :
    writeRow renderer [clause] = writeRow renderer [other] := by
  simp only [writeRow, writeClause, List.forM_eq_forM, List.forM_cons, same]

theorem commentIfAny_eq (comment : Option String) :
    commentIfAny (K := K) renderer comment = writeRows renderer (remarkRows comment) := by
  cases comment with
  | none => rfl
  | some text =>
      simp only [commentIfAny, Program.comment, add_eq, remarkRows, Option.toList_some,
        List.map_cons, List.map_nil, writeRows_cons, writeRows_nil, bind_pure_unit]
      rfl

theorem phrases_render (template : String) (phrase : Phrase K) :
    (Clause.mk template [.phrases [phrase]]).render renderer =
      phrase.render renderer >>= fun text => renderer template [.text text] := by
  cases rendered : phrase.render renderer with
  | error failure => simp [Clause.render, Argument.fill, rendered, bind, Except.bind, Except.map]
  | ok text =>
      simp [Clause.render, Argument.fill, rendered, bind, Except.bind, Except.map, pure,
        Except.pure]

theorem comment_phrase_eq (phrase : Phrase K) :
    (render renderer phrase.template phrase.slots >>= fun text =>
        Program.comment renderer text) =
      writeRow renderer (remark (.phrases [phrase])) := by
  have same : writeRow renderer (remark (.phrases [phrase])) =
      writeClause renderer ⟨"comment", [.phrases [phrase]]⟩ >>= fun _ => push := by
    simp only [writeRow, remark, List.forM_eq_forM, List.forM_cons, List.forM_nil, bind_pure_unit]
  rw [same, writeClause, phrases_render]
  change (ExceptT.mk (pure (phrase.render renderer)) >>= _) = _
  cases phrase.render renderer with
  | error failure => rfl
  | ok text => rfl

theorem header_eq (time inputName : String) (comment : Option String) :
    header (K := K) renderer time inputName comment =
      writeRows renderer (headerRows time inputName comment) := by
  simp only [header, headerRows, List.cons_append, List.nil_append, writeRows_cons,
    ← comment_phrase_eq, commentIfAny_eq, bind_assoc]

variable [Numeral K]

theorem cell_eq (scene : Scene K) : cell renderer scene = writeRow renderer (cellRow scene) := by
  unfold cell cellRow
  cases scene.thickness with
  | none => exact add_eq ..
  | some thickness => exact add_eq ..

theorem block_eq (given : Block K) :
    block renderer given = writeRow renderer (blockRow given) := by
  unfold block blockRow positionClause
  cases given.thickness with
  | none =>
      simp only [form_eq, writeRow, List.forM_eq_forM, List.forM_cons, List.forM_nil, bind_assoc,
        pure_bind]
  | some thickness =>
      simp only [form_eq, writeRow, List.forM_eq_forM, List.forM_cons, List.forM_nil, bind_assoc,
        pure_bind]

theorem source_eq (given : Source K) :
    source renderer given =
      writeRows renderer (remarkRows given.comment ++ [sourceRow given]) := by
  simp only [source, form_eq, commentIfAny_eq, writeRows_append, writeRows_cons, writeRows_nil,
    writeRow, sourceRow, List.forM_eq_forM, List.forM_cons, List.forM_nil, bind_assoc,
    bind_pure_unit]

theorem sources_eq (scene : Scene K) :
    sources renderer scene = writeRows renderer (sourceRows scene) := by
  have placed := writeRows_flatMap renderer scene.sources fun item _ =>
    source_eq renderer item
  simp only [sources, sourceRows, add_eq, placed, writeRows_append, writeRows_cons, writeRows_nil,
    bind_pure_unit, bind_assoc]

omit [Numeral K] in
theorem controls_eq (scene : Scene K) :
    controls renderer scene = writeRows renderer (controlRows scene) := by
  unfold controls controlRows
  cases scene.complex with
  | false => simp [add_eq, writeRows_cons, writeRows_nil]
  | true => simp [add_eq, writeRows_cons, writeRows_nil]

theorem elementBlocks_ok {layout : Layout K} {given : Element K} (fits : given.Fits layout) :
    ∃ blocks, elementBlocks layout given = .ok blocks := by
  cases fits with
  | @line line => exact ⟨line.blocks, rfl⟩
  | @connector connector _ start finish =>
      obtain ⟨startLine, startFound⟩ := attachedLine_ok start
      obtain ⟨finishLine, finishFound⟩ := attachedLine_ok finish
      exact ⟨connector.blocks startLine finishLine, by
        simp only [elementBlocks, startFound, finishFound]; rfl⟩

theorem element_eq {layout : Layout K} {given : Element K} (fits : given.Fits layout) :
    element renderer layout given = writeRows renderer (elementRows layout given) := by
  obtain ⟨blocks, able⟩ := elementBlocks_ok fits
  have shown : drawn layout given = blocks := by rw [drawn, able]; rfl
  have placed : blocks.forM (block renderer) = writeRows renderer (blocks.map blockRow) := by
    rw [writeRows, List.forM_eq_forM, List.forM_eq_forM, List.forM_map, funext (block_eq renderer)]
  rw [element, elementRows, able, shown, commentIfAny_eq, writeRows_append, ← placed]
  rfl

theorem geometry_eq {scene : Scene K} (fitted : scene.layout.Fitted) :
    geometry renderer scene = writeRows renderer (geometryRows scene) := by
  have placed := writeRows_flatMap renderer scene.layout.elements fun item member =>
    element_eq renderer (fitted item member)
  simp only [geometry, geometryRows, add_eq, placed, writeRows_append, writeRows_cons,
    writeRows_nil, bind_pure_unit, bind_assoc]

theorem flux_eq (number : Nat) (given : FluxPoint K) :
    flux renderer number given = writeRows renderer (fluxRows number given) >>= fun _ =>
      modify fun draft => { draft with fluxes := draft.fluxes.push number } := by
  simp only [flux, fluxRows, fluxRow, form_eq, commentIfAny_eq, writeRows_append, writeRows_cons,
    writeRows_nil, writeRow, List.forM_eq_forM, List.forM_cons, List.forM_nil, bind_assoc,
    pure_bind]

omit [Numeral K] in
theorem transient_eq (number : Nat) (given : Transient K) :
    transient renderer number given =
      writeRows renderer (transientRows number given) >>= fun _ =>
        ExceptT.mk (pure ((stepPhrase number).render renderer)) >>= fun step =>
          modify fun draft => { draft with steps := draft.steps ++ step } := by
  unfold transient transientRows transientRow snapshotClause
  cases given.position with
  | none =>
      simp only [form_eq, commentIfAny_eq, writeRows_append, writeRows_cons, writeRows_nil,
        writeRow, List.forM_eq_forM, List.forM_cons, List.forM_nil, bind_assoc, pure_bind]
      rfl
  | some position =>
      simp only [form_eq, commentIfAny_eq, writeRows_append, writeRows_cons, writeRows_nil,
        writeRow, List.forM_eq_forM, List.forM_cons, List.forM_nil, bind_assoc, pure_bind]
      rfl

end Rows

section Drafts

variable {renderer : Renderer K}

def grow (draft : Draft) (lines : List String) (numbers : List Nat) (steps : List String) : Draft :=
  { draft with
    lines := draft.lines ++ lines.toArray
    fluxes := draft.fluxes ++ numbers.toArray
    steps := draft.steps ++ String.join steps }

theorem grow_nil (draft : Draft) : grow draft [] [] [] = draft := by simp [grow]

theorem grow_grow (draft : Draft) (lines others : List String) (numbers more : List Nat)
    (steps further : List String) :
    grow (grow draft lines numbers steps) others more further =
      grow draft (lines ++ others) (numbers ++ more) (steps ++ further) := by
  simp [grow, Array.append_assoc, String.append_assoc, String.join_append]

theorem outcome_clauses (row : Row K) (draft : Draft) :
    outcome (row.forM (writeClause renderer)) draft =
      (row.render renderer).map fun text =>
        ((), { draft with current := draft.current ++ text }) := by
  induction row generalizing draft with
  | nil =>
      change Except.ok ((), draft) = .ok ((), { draft with current := draft.current ++ "" })
      rw [String.append_empty]
  | cons clause row ih =>
      simp only [List.forM_eq_forM, List.forM_cons, outcome_bind] at ih ⊢
      simp only [ih, writeClause, outcome_bind, outcome_mk, outcome_modify, Row.render,
        List.mapM_cons]
      cases clause.render renderer with
      | error failure => rfl
      | ok piece =>
          change _ = ((List.mapM (Clause.render renderer) row >>= fun texts =>
            .ok (piece :: texts)).map String.join).map _
          cases row.mapM (Clause.render renderer) with
          | error failure => rfl
          | ok texts =>
              simp [bind, Except.bind, Except.map, String.join_cons, String.append_assoc]

theorem outcome_writeRow (row : Row K) {draft : Draft} (closed : draft.current = "") :
    outcome (writeRow renderer row) draft =
      (row.render renderer).map fun line => ((), grow draft [line] [] []) := by
  simp only [writeRow, push, outcome_bind, outcome_clauses, outcome_modify]
  cases row.render renderer with
  | error failure => rfl
  | ok line =>
      obtain ⟨lines, current, fluxes, steps⟩ := draft
      obtain rfl : current = "" := closed
      simp [bind, Except.bind, Except.map, grow]

/-- What a writer does to a draft whose last line is closed: it renders the rows and closes a line
for each, notes the numbers of flux points, and renders the steps of the run. It is stopped only by
a template that it renders. -/
structure Writes (renderer : Renderer K) (action : Writing K Unit) (rows : List (Row K))
    (numbers : List Nat) (steps : List (Phrase K)) : Prop where
  passes : ∀ {draft after : Draft}, draft.current = "" → outcome action draft = .ok ((), after) →
    ∃ lines texts, List.Forall₂ (fun row line => row.render renderer = .ok line) rows lines ∧
      List.Forall₂ (fun step text => step.render renderer = .ok text) steps texts ∧
      after = grow draft lines numbers texts
  stops : ∀ {draft : Draft} {failure : Failure K}, draft.current = "" →
    outcome action draft = .error failure →
      Faults renderer (rows.flatMap Row.calls ++ steps.map Phrase.call) failure

namespace Writes

variable {action next : Writing K Unit} {rows others : List (Row K)} {numbers more : List Nat}
  {steps further : List (Phrase K)}

theorem nothing : Writes (K := K) renderer (pure ()) [] [] [] where
  passes := by
    intro draft after _ done
    obtain ⟨_, rfl⟩ := Prod.mk.inj (Except.ok.inj done)
    exact ⟨[], [], .nil, .nil, (grow_nil draft).symm⟩
  stops := fun _ impossible => by simp at impossible

theorem bind (first : Writes renderer action rows numbers steps)
    (second : Writes renderer next others more further) :
    Writes renderer (action >>= fun _ => next) (rows ++ others) (numbers ++ more)
      (steps ++ further) where
  passes := by
    intro draft after closed done
    rw [outcome_bind, bind_eq_ok] at done
    obtain ⟨⟨_, middle⟩, before, done⟩ := done
    obtain ⟨lines, texts, rendered, stepped, rfl⟩ := first.passes closed before
    have stillClosed : (grow draft lines numbers texts).current = "" := closed
    obtain ⟨others, further, renderedToo, steppedToo, rfl⟩ := second.passes stillClosed done
    exact ⟨lines ++ others, texts ++ further, List.rel_append rendered renderedToo,
      List.rel_append stepped steppedToo, grow_grow ..⟩
  stops := by
    intro draft failure closed failed
    rw [outcome_bind, bind_eq_error] at failed
    rcases failed with failed | ⟨⟨_, middle⟩, before, failed⟩
    · refine (first.stops closed failed).mono fun call known => ?_
      simp only [List.flatMap_append, List.map_append, List.mem_append] at known ⊢
      tauto
    · obtain ⟨lines, texts, _, _, rfl⟩ := first.passes closed before
      have stillClosed : (grow draft lines numbers texts).current = "" := closed
      refine (second.stops stillClosed failed).mono fun call known => ?_
      simp only [List.flatMap_append, List.map_append, List.mem_append] at known ⊢
      tauto

theorem row (given : Row K) : Writes renderer (writeRow renderer given) [given] [] [] where
  passes := by
    intro draft after closed done
    rw [outcome_writeRow given closed, map_eq_ok] at done
    obtain ⟨line, rendered, result⟩ := done
    obtain ⟨_, rfl⟩ := Prod.mk.inj result
    exact ⟨[line], [], .cons rendered .nil, .nil, rfl⟩
  stops := by
    intro draft failure closed failed
    rw [outcome_writeRow given closed] at failed
    exact (Row.render_faults (map_eq_error.mp failed)).mono (by simp)

theorem all (given : List (Row K)) :
    Writes renderer (writeRows renderer given) given [] [] := by
  induction given with
  | nil => exact nothing
  | cons first given ih => exact (row first).bind ih

theorem note (number : Nat) : Writes (K := K) renderer
    (modify fun draft => { draft with fluxes := draft.fluxes.push number }) [] [number] [] where
  passes := by
    intro draft after _ done
    rw [outcome_modify] at done
    obtain ⟨_, rfl⟩ := Prod.mk.inj (Except.ok.inj done)
    exact ⟨[], [], .nil, .nil, by simp [grow]⟩
  stops := fun _ impossible => by simp at impossible

theorem step (given : Phrase K) : Writes renderer
    (ExceptT.mk (pure (given.render renderer)) >>= fun step =>
      modify fun draft => { draft with steps := draft.steps ++ step }) [] [] [given] where
  passes := by
    intro draft after _ done
    simp only [outcome_bind, outcome_mk, outcome_modify, bind_eq_ok] at done
    obtain ⟨_, rendered, result⟩ := done
    obtain ⟨piece, known, rfl⟩ := map_eq_ok.mp rendered
    obtain ⟨_, rfl⟩ := Prod.mk.inj (Except.ok.inj result)
    exact ⟨[], [piece], .nil, .cons known .nil, by simp [grow]⟩
  stops := by
    intro draft failure _ failed
    refine ⟨given.template, given.slots, by simp [Phrase.call], ?_⟩
    simp only [outcome_bind, outcome_mk, outcome_modify, bind_eq_error] at failed
    rcases failed with failed | ⟨_, _, impossible⟩
    · exact map_eq_error.mp failed
    · contradiction

theorem forNumbered {α : Type} {write : Nat → α → Writing K Unit} {rows : Nat → α → List (Row K)}
    {numbers : Nat → List Nat} {steps : Nat → List (Phrase K)}
    (each : ∀ number item, Writes renderer (write number item) (rows number item)
      (numbers number) (steps number)) (first : Nat) (items : List α) :
    Writes renderer (Program.forNumbered write first items) (numbered rows first items)
      ((List.range' first items.length).flatMap numbers)
      ((List.range' first items.length).flatMap steps) := by
  induction items generalizing first with
  | nil => exact nothing
  | cons item items ih =>
      rw [List.length_cons, List.range'_succ, List.flatMap_cons, List.flatMap_cons, numbered,
        List.zipIdx_cons, List.flatMap_cons]
      exact (each first item).bind (ih (first + 1))

end Writes

section Whole

variable [Numeral K] {settings : Settings K} {time : String} {scene : Scene K}

def define (renderer : Renderer K) (settings : Settings K) (time : String) (scene : Scene K) :
    Writing K Unit := do
  header renderer time settings.inputName scene.comment
  cell renderer scene
  geometry renderer scene
  sources renderer scene
  controls renderer scene
  fluxes renderer scene
  transients renderer scene

theorem write_eq : write renderer settings time scene =
    define renderer settings time scene >>= fun _ =>
      runControl renderer scene >>= fun _ => finalizeFluxes renderer := by
  simp only [write, define, bind_assoc]

theorem flux_writes (number : Nat) (given : FluxPoint K) :
    Writes renderer (flux renderer number given) (fluxRows number given) [number] [] := by
  rw [flux_eq]
  simpa only [List.append_nil, List.nil_append] using
    (Writes.all (fluxRows number given)).bind (.note number)

omit [Numeral K] in
theorem transient_writes (number : Nat) (given : Transient K) :
    Writes renderer (transient renderer number given) (transientRows number given) []
      [stepPhrase number] := by
  rw [transient_eq]
  simpa only [List.append_nil, List.nil_append] using
    (Writes.all (transientRows number given)).bind (.step (stepPhrase number))

theorem fluxes_writes (scene : Scene K) :
    Writes renderer (fluxes renderer scene) (numbered fluxRows 0 scene.fluxes)
      (List.range scene.fluxes.length) [] := by
  have loop : Writes renderer (fluxes renderer scene) _ _ _ :=
    .forNumbered flux_writes 0 scene.fluxes
  rw [← List.range_eq_range', ← List.map_eq_flatMap, List.map_id',
    List.flatMap_eq_nil_iff.mpr fun _ _ => rfl] at loop
  exact loop

omit [Numeral K] in
theorem transients_writes (scene : Scene K) :
    Writes renderer (transients renderer scene) (numbered transientRows 0 scene.transients) []
      ((List.range scene.transients.length).map stepPhrase) := by
  have loop : Writes renderer (transients renderer scene) _ _ _ :=
    .forNumbered transient_writes 0 scene.transients
  rw [← List.range_eq_range', ← List.map_eq_flatMap,
    List.flatMap_eq_nil_iff.mpr fun _ _ => rfl] at loop
  exact loop

theorem define_writes (fitted : scene.layout.Fitted) :
    Writes renderer (define renderer settings time scene) (definitionRows settings time scene)
      (List.range scene.fluxes.length) ((List.range scene.transients.length).map stepPhrase) := by
  have rows : Writes renderer _ _ _ _ :=
    (Writes.all (headerRows time settings.inputName scene.comment)).bind
      ((Writes.row (cellRow scene)).bind ((Writes.all (geometryRows scene)).bind
        ((Writes.all (sourceRows scene)).bind ((Writes.all (controlRows scene)).bind
          ((fluxes_writes scene).bind (transients_writes scene))))))
  simp only [define, header_eq, cell_eq, geometry_eq renderer fitted, sources_eq, controls_eq]
  simpa only [definitionRows, List.append_nil, List.nil_append, List.append_assoc] using rows

omit [Numeral K] in
theorem runControl_outcome {draft : Draft} {texts : List String}
    (stepped : List.Forall₂ (fun (step : Phrase K) text => step.render renderer = .ok text)
      ((List.range scene.transients.length).map stepPhrase) texts)
    (steps : draft.steps = String.join texts) :
    outcome (runControl renderer scene) draft =
      outcome (writeRow renderer (runRow scene)) draft := by
  have filled : Argument.fill (K := K) renderer
      (.phrases ((List.range scene.transients.length).map stepPhrase)) =
        .ok (.text draft.steps) := by
    rw [Argument.fill, mapM_eq_ok.mpr stepped, steps]
    rfl
  have same : ∀ (template : String) (arguments : List (Argument K)) (slots : List (Slot K)),
      arguments.mapM (Argument.fill renderer) = .ok slots →
        outcome (add renderer template slots) draft =
          outcome (writeRow renderer [⟨template, arguments⟩]) draft := by
    intro template arguments slots known
    refine congrArg (outcome · draft) ((add_eq ..).trans (writeRow_congr renderer ?_))
    rw [Clause.plain_render, Clause.render_of_fill renderer known]
  rw [runControl, outcome_bind, outcome_get, runRow]
  cases scene.run with
  | decay position =>
      refine same "time_decay" _ [.text draft.steps, .number scene.duration, .number position.x,
        .number position.y] ?_
      simp only [List.mapM_cons, List.mapM_nil, filled]
      rfl
  | structureOnly =>
      refine same "time_fixed" _ [.number scene.duration, .text draft.steps] ?_
      simp only [List.mapM_cons, List.mapM_nil, filled]
      rfl
  | fixed =>
      refine same "time_fixed" _ [.number scene.duration, .text draft.steps] ?_
      simp only [List.mapM_cons, List.mapM_nil, filled]
      rfl

omit [Numeral K] in
theorem finalizeFluxes_outcome {draft : Draft}
    (numbers : draft.fluxes.toList = List.range scene.fluxes.length) :
    outcome (finalizeFluxes renderer) draft =
      outcome (writeRow renderer (displayRow scene)) draft := by
  have reference : ∀ number : Nat, form (K := K) renderer "flux_ref" [.integer number] =
      writeClause renderer (.plain "flux_ref" [.integer number]) := fun _ => form_eq ..
  have row : writeRow renderer (displayRow scene) = (do
      form renderer "fluxes_head" []
      (List.range scene.fluxes.length).forM fun number =>
        form renderer "flux_ref" [.integer number]
      form renderer "fluxes_tail" []
      push) := by
    simp only [writeRow, displayRow, reference, form_eq, List.forM_eq_forM, List.forM_append,
      List.forM_cons, List.forM_nil, List.forM_map, bind_assoc, pure_bind]
  rw [row, finalizeFluxes, outcome_bind, outcome_bind]
  refine bind_congr_ok fun result opened => ?_
  rw [form_eq, writeClause, outcome_bind, outcome_mk, bind_eq_ok] at opened
  obtain ⟨_, rendered, opened⟩ := opened
  obtain ⟨_, _, rfl⟩ := map_eq_ok.mp rendered
  obtain rfl := Except.ok.inj opened
  rw [outcome_bind, outcome_get]
  change outcome (draft.fluxes.toList.forM _ >>= _) _ = _
  rw [numbers]

/-- The writer does what one does that knows all rows beforehand. -/
theorem write_outcome (fitted : scene.layout.Fitted) :
    outcome (write renderer settings time scene) Draft.empty =
      outcome (define renderer settings time scene >>= fun _ =>
        writeRows renderer [runRow scene, displayRow scene]) Draft.empty := by
  rw [write_eq, outcome_bind, outcome_bind]
  refine bind_congr_ok fun result defined => ?_
  obtain ⟨lines, texts, _, stepped, grown⟩ := (define_writes fitted).passes rfl defined
  have steps : result.2.steps = String.join texts := by
    rw [grown]
    exact String.empty_append
  have numbers : ∀ line, (grow result.2 [line] [] []).fluxes.toList =
      List.range scene.fluxes.length := by
    intro line
    simp [grown, grow, Draft.empty]
  have closed : result.2.current = "" := by
    rw [grown]
    rfl
  rw [outcome_bind, runControl_outcome stepped steps, writeRows_cons, writeRows_cons,
    writeRows_nil, bind_pure_unit, outcome_bind, outcome_writeRow _ closed]
  refine bind_congr_ok fun written known => ?_
  obtain ⟨line, _, rfl⟩ := map_eq_ok.mp known
  exact finalizeFluxes_outcome (numbers line)

theorem outline_writes (fitted : scene.layout.Fitted) :
    Writes renderer (define renderer settings time scene >>= fun _ =>
        writeRows renderer [runRow scene, displayRow scene]) (outline settings time scene)
      (List.range scene.fluxes.length) ((List.range scene.transients.length).map stepPhrase) := by
  have definitions : Writes renderer (define renderer settings time scene) _ _ _ :=
    define_writes fitted
  simpa only [outline, List.append_nil] using
    definitions.bind (.all [runRow scene, displayRow scene])

omit [Numeral K] in
theorem step_calls (scene : Scene K) :
    ((List.range scene.transients.length).map stepPhrase).map (Phrase.call (K := K)) ⊆
      Row.calls (runRow scene) := by
  intro call known
  unfold runRow
  cases scene.run with
  | decay position => simpa [Row.calls, Clause.calls, Argument.calls] using Or.inl known
  | structureOnly => simpa [Row.calls, Clause.calls, Argument.calls] using Or.inl known
  | fixed => simpa [Row.calls, Clause.calls, Argument.calls] using Or.inl known

section Agreement

variable {first second : Renderer K}

omit [Numeral K] in
theorem writeRow_agree {row : Row K} (agree : Agree row.calls first second) :
    writeRow first row = writeRow second row := by
  induction row with
  | nil => rfl
  | cons clause row ih =>
      have here := Clause.render_agree (agree.mono (List.subset_append_left _ _))
      have later := ih (agree.mono (List.subset_append_right _ _))
      simp only [writeRow, writeClause, List.forM_eq_forM, List.forM_cons, bind_assoc,
        here] at later ⊢
      rw [later]

omit [Numeral K] in
theorem writeRows_agree {rows : List (Row K)} (agree : Agree (rows.flatMap Row.calls) first second) :
    writeRows first rows = writeRows second rows := by
  induction rows with
  | nil => rfl
  | cons row rows ih =>
      rw [writeRows_cons, writeRows_cons,
        writeRow_agree (agree.mono (List.subset_append_left _ _)),
        ih (agree.mono (List.subset_append_right _ _))]

omit [Numeral K] in
theorem forNumbered_congr {α : Type} {write other : Nat → α → Writing K Unit} {start : Nat}
    {items : List α}
    (same : ∀ entry ∈ items.zipIdx start, write entry.2 entry.1 = other entry.2 entry.1) :
    Program.forNumbered write start items = Program.forNumbered other start items := by
  induction items generalizing start with
  | nil => rfl
  | cons item items ih =>
      rw [List.zipIdx_cons, List.forall_mem_cons] at same
      rw [Program.forNumbered, Program.forNumbered, same.1, ih same.2]

theorem define_agree (fitted : scene.layout.Fitted)
    (agree : Agree ((outline settings time scene).flatMap Row.calls) first second) :
    define first settings time scene = define second settings time scene := by
  have rows : ∀ part : List (Row K), (∀ row ∈ part, row ∈ definitionRows settings time scene) →
      writeRows first part = writeRows second part := fun part within =>
    writeRows_agree <| agree.mono fun call known => by
      obtain ⟨row, member, here⟩ := List.mem_flatMap.mp known
      exact List.mem_flatMap.mpr ⟨row, List.mem_append_left _ (within row member), here⟩
  have header := rows (headerRows time settings.inputName scene.comment) fun row member => by
    simp [definitionRows, member]
  have cell := rows [cellRow scene] (by simp [definitionRows])
  have geometry := rows (geometryRows scene) fun row member => by simp [definitionRows, member]
  have sources := rows (sourceRows scene) fun row member => by simp [definitionRows, member]
  have controls := rows (controlRows scene) fun row member => by simp [definitionRows, member]
  have fluxes : fluxes first scene = fluxes second scene :=
    forNumbered_congr fun entry member => by
      rw [flux_eq, flux_eq, rows (fluxRows entry.2 entry.1) fun row here => ?_]
      have listed : row ∈ numbered fluxRows 0 scene.fluxes :=
        List.mem_flatMap.mpr ⟨entry, member, here⟩
      simp [definitionRows, listed]
  have step : ∀ number < scene.transients.length,
      (stepPhrase number).render first = (stepPhrase number).render second := by
    intro number below
    have called := step_calls scene
      (List.mem_map_of_mem (List.mem_map_of_mem (List.mem_range.mpr below)))
    refine agree _ _ (List.mem_flatMap.mpr ⟨runRow scene, ?_, called⟩)
    simp [outline]
  have transients : transients first scene = transients second scene :=
    forNumbered_congr fun entry member => by
      rw [transient_eq, transient_eq, rows (transientRows entry.2 entry.1) fun row here => ?_]
      · rw [step entry.2 (by simpa using List.snd_lt_add_of_mem_zipIdx member)]
      · have listed : row ∈ numbered transientRows 0 scene.transients :=
          List.mem_flatMap.mpr ⟨entry, member, here⟩
        simp [definitionRows, listed]
  simp only [writeRows_cons, writeRows_nil, bind_pure_unit] at cell
  simp only [define, header_eq, cell_eq, geometry_eq _ fitted, sources_eq, controls_eq, header, cell,
    geometry, sources, controls, fluxes, transients]

theorem text_eq (renderer : Renderer K) (settings : Settings K) (time : String) (scene : Scene K) :
    text renderer settings time scene =
      (outcome (write renderer settings time scene) Draft.empty).map fun result =>
        result.2.text := by
  unfold text outcome
  split <;> rename_i ran <;> rw [ran] <;> rfl

theorem text_agree (fitted : scene.layout.Fitted)
    (agree : Agree ((outline settings time scene).flatMap Row.calls) first second) :
    text first settings time scene = text second settings time scene := by
  have last : writeRows first [runRow scene, displayRow scene] =
      writeRows second [runRow scene, displayRow scene] :=
    writeRows_agree <| agree.mono fun call known => by
      rw [outline, List.flatMap_append]
      exact List.mem_append_right _ known
  rw [text_eq, text_eq, write_outcome fitted, write_outcome fitted, define_agree fitted agree, last]

end Agreement

theorem text_passes (fitted : scene.layout.Fitted) {program : String}
    (written : text renderer settings time scene = .ok program) :
    ∃ draft, (write renderer settings time scene).run.run Draft.empty = (.ok (), draft) ∧
      draft.current = "" ∧
      program = String.join (draft.lines.toList.map fun line => line ++ "\n") ∧
      List.Forall₂ (fun row line => Row.render renderer row = .ok line)
        (outline settings time scene) draft.lines.toList := by
  unfold text at written
  split at written
  · rename_i result draft ran
    have passed : outcome (write renderer settings time scene) Draft.empty =
        .ok (result, draft) := by rw [outcome, ran]
    rw [write_outcome fitted] at passed
    obtain ⟨lines, texts, rendered, _, rfl⟩ := (outline_writes fitted).passes rfl passed
    exact ⟨_, ran, rfl, (Except.ok.inj written).symm, by simpa [grow, Draft.empty] using rendered⟩
  · contradiction

theorem text_stops (fitted : scene.layout.Fitted) {failure : Failure K}
    (failed : text renderer settings time scene = .error failure) :
    Faults renderer ((outline settings time scene).flatMap Row.calls) failure := by
  rw [text_eq, map_eq_error, write_outcome fitted] at failed
  refine ((outline_writes fitted).stops rfl failed).mono fun call known => ?_
  rcases List.mem_append.mp known with listed | step
  · exact listed
  · refine List.mem_flatMap.mpr ⟨runRow scene, ?_, step_calls scene step⟩
    simp [outline]

end Whole

end Drafts

end Waveguide.Program
