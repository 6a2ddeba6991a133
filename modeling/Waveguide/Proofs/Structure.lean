import Mathlib
import Waveguide.Proofs.Emission

/-!
The structure of the programs that are written for built scenes: what the lines are for and in which
order they stand, what the elements are drawn with, and that flux regions and functions are defined
before they are used.
-/

namespace Waveguide.Program

inductive Name where
  | flux (number : Int)
  | function (name : String)
  deriving DecidableEq

variable {K : Type}

def Clause.defines (clause : Clause K) : List Name :=
  match clause.template, clause.arguments with
  | "flux_head", [.slot (.integer number)] => [.flux number]
  | "function_head", [.slot (.text name)] => [.function name]
  | _, _ => []

def Phrase.uses (phrase : Phrase K) : List Name :=
  match phrase.template, phrase.slots with
  | "function_ref", [.text name] => [.function name]
  | _, _ => []

def Argument.uses : Argument K → List Name
  | .slot _ => []
  | .phrases given => given.flatMap Phrase.uses

def Clause.uses (clause : Clause K) : List Name :=
  clause.arguments.flatMap Argument.uses ++
    match clause.template, clause.arguments with
    | "flux_ref", [.slot (.integer number)] => [.flux number]
    | _, _ => []

def Row.defines (row : Row K) : List Name := row.flatMap Clause.defines

def Row.uses (row : Row K) : List Name := row.flatMap Clause.uses

/-- Each row uses only what rows before it define, and nothing is defined twice. -/
inductive Scoped : List Name → List (Row K) → Prop
  | nil (known : List Name) : Scoped known []
  | cons {known : List Name} {row : Row K} {rows : List (Row K)} : Row.uses row ⊆ known →
      (known ++ Row.defines row).Nodup → Scoped (known ++ Row.defines row) rows →
      Scoped known (row :: rows)

theorem Scoped.append {known : List Name} {rows others : List (Row K)} (first : Scoped known rows)
    (second : Scoped (known ++ rows.flatMap Row.defines) others) :
    Scoped known (rows ++ others) := by
  induction first with
  | nil known => simpa using second
  | cons uses distinct _ ih =>
      refine .cons uses distinct (ih ?_)
      rwa [List.append_assoc, ← List.flatMap_cons]

theorem Scoped.of_unused {known : List Name} {rows : List (Row K)}
    (unused : rows.flatMap Row.uses = []) (distinct : (known ++ rows.flatMap Row.defines).Nodup) :
    Scoped known rows := by
  induction rows generalizing known with
  | nil => exact .nil known
  | cons row rows ih =>
      rw [List.flatMap_cons, List.append_eq_nil_iff] at unused
      rw [List.flatMap_cons, ← List.append_assoc] at distinct
      refine .cons ?_ (List.nodup_append.mp distinct).1 (ih unused.2 distinct)
      rw [unused.1]
      exact List.nil_subset known

def namingTemplates : List String := ["flux_head", "function_head", "flux_ref", "function_ref"]

theorem Phrase.uses_eq_nil {phrase : Phrase K} (other : phrase.call.1 ∉ namingTemplates) :
    phrase.uses = [] := by
  unfold Phrase.uses
  split
  · rename_i same _
    exact absurd (by simp [Phrase.call, same, namingTemplates]) other
  · rfl

theorem Clause.nameless {clause : Clause K}
    (calls : ∀ call ∈ clause.calls, call.1 ∉ namingTemplates) :
    clause.defines = [] ∧ clause.uses = [] := by
  have own : clause.template ∉ namingTemplates :=
    calls (clause.template, clause.arguments.length)
      (List.mem_append_right _ (List.mem_singleton.mpr rfl))
  have arguments : clause.arguments.flatMap Argument.uses = [] := by
    refine List.flatMap_eq_nil_iff.mpr fun argument member => ?_
    cases argument with
    | slot given => rfl
    | phrases given =>
        refine List.flatMap_eq_nil_iff.mpr fun phrase known => Phrase.uses_eq_nil (calls _ ?_)
        refine List.mem_append_left _ (List.mem_flatMap.mpr ⟨_, member, ?_⟩)
        exact List.mem_map_of_mem known
  constructor
  · unfold Clause.defines
    split
    · rename_i same _
      exact absurd (by simp [same, namingTemplates]) own
    · rename_i same _
      exact absurd (by simp [same, namingTemplates]) own
    · rfl
  · rw [Clause.uses, arguments, List.nil_append]
    split
    · rename_i same _
      exact absurd (by simp [same, namingTemplates]) own
    · rfl

theorem nameless_rows {rows : List (Row K)} {table : List Call} (calls : CallsWithin rows table)
    (others : ∀ call ∈ table, call.1 ∉ namingTemplates) :
    rows.flatMap Row.defines = [] ∧ rows.flatMap Row.uses = [] := by
  have clauses : ∀ row ∈ rows, ∀ clause ∈ row, clause.defines = [] ∧ clause.uses = [] := by
    intro row member clause known
    refine Clause.nameless fun call called => others call (calls row member ?_)
    exact List.mem_flatMap.mpr ⟨clause, known, called⟩
  constructor
  · exact List.flatMap_eq_nil_iff.mpr fun row member =>
      List.flatMap_eq_nil_iff.mpr fun clause known => (clauses row member clause known).1
  · exact List.flatMap_eq_nil_iff.mpr fun row member =>
      List.flatMap_eq_nil_iff.mpr fun clause known => (clauses row member clause known).2

def regionNames (count : Nat) : List Name :=
  (List.range count).map fun (number : Nat) => .flux number

def functionNames (count : Nat) : List Name :=
  (List.range count).map fun number => .function (transientName number)

theorem transientName_injective : Function.Injective transientName := by
  intro first second same
  have digits := (String.append_right_inj "transient").mp same
  have read := congrArg (fun text => Nat.ofDigitChars 10 text.toList 0) digits
  simpa [Nat.toList_repr] using read

theorem names_nodup (regions functions : Nat) :
    (regionNames regions ++ functionNames functions).Nodup := by
  refine List.Nodup.append ?_ ?_ ?_
  · refine List.nodup_range.map fun first second same => ?_
    exact Int.ofNat.inj (Name.flux.inj same)
  · exact List.nodup_range.map fun first second same =>
      transientName_injective (Name.function.inj same)
  · intro name region function
    obtain ⟨_, _, rfl⟩ := List.mem_map.mp region
    obtain ⟨_, _, impossible⟩ := List.mem_map.mp function
    contradiction

section Rows

variable [Numeral K]

omit [Numeral K] in
theorem remarkRows_nameless (comment : Option String) :
    (remarkRows (K := K) comment).flatMap Row.defines = [] ∧
      (remarkRows (K := K) comment).flatMap Row.uses = [] :=
  nameless_rows (remarkRows_calls comment (List.mem_singleton.mpr rfl)) (by decide)

theorem fluxRows_names (number : Nat) (flux : FluxPoint K) :
    (fluxRows number flux).flatMap Row.defines = [.flux number] ∧
      (fluxRows number flux).flatMap Row.uses = [] := by
  obtain ⟨defines, uses⟩ := remarkRows_nameless (K := K) flux.comment
  constructor
  · rw [fluxRows, List.flatMap_append, defines]
    rfl
  · rw [fluxRows, List.flatMap_append, uses]
    rfl

omit [Numeral K] in
theorem transientRows_names (number : Nat) (transient : Transient K) :
    (transientRows number transient).flatMap Row.defines = [.function (transientName number)] ∧
      (transientRows number transient).flatMap Row.uses = [] := by
  obtain ⟨defines, uses⟩ := remarkRows_nameless (K := K) transient.comment
  constructor
  · rw [transientRows, List.flatMap_append, defines, transientRow, snapshotClause]
    cases transient.position <;> rfl
  · rw [transientRows, List.flatMap_append, uses, transientRow, snapshotClause]
    cases transient.position <;> rfl

omit [Numeral K] in
theorem numbered_names {α : Type} {rows : Nat → α → List (Row K)} {name : Nat → Name}
    (each : ∀ number item, (rows number item).flatMap Row.defines = [name number] ∧
      (rows number item).flatMap Row.uses = []) (items : List α) :
    (numbered rows 0 items).flatMap Row.defines = (List.range items.length).map name ∧
      (numbered rows 0 items).flatMap Row.uses = [] := by
  constructor
  · rw [numbered, List.flatMap_assoc, List.range_eq_range', ← List.zipIdx_map_snd, List.map_map,
      List.map_eq_flatMap]
    simp only [(each _ _).1, Function.comp_apply]
  · rw [numbered, List.flatMap_assoc]
    exact List.flatMap_eq_nil_iff.mpr fun entry _ => (each entry.2 entry.1).2

theorem definitionRows_names (settings : Settings K) (time : String) (scene : Scene K) :
    (definitionRows settings time scene).flatMap Row.defines =
        regionNames scene.fluxes.length ++ functionNames scene.transients.length ∧
      (definitionRows settings time scene).flatMap Row.uses = [] := by
  obtain ⟨headerDefines, headerUses⟩ := nameless_rows
    (headerRows_calls (K := K) time settings.inputName scene.comment) (by decide)
  obtain ⟨cellDefines, cellUses⟩ := nameless_rows (.single (cellRow_calls scene)) (by decide)
  obtain ⟨geometryDefines, geometryUses⟩ := nameless_rows (geometryRows_calls scene) (by decide)
  obtain ⟨sourceDefines, sourceUses⟩ := nameless_rows (sourceRows_calls scene) (by decide)
  obtain ⟨controlDefines, controlUses⟩ := nameless_rows (controlRows_calls scene) (by decide)
  obtain ⟨fluxDefines, fluxUses⟩ := numbered_names (fluxRows_names (K := K)) scene.fluxes
  obtain ⟨transientDefines, transientUses⟩ :=
    numbered_names (transientRows_names (K := K)) scene.transients
  simp only [definitionRows, List.flatMap_append]
  constructor
  · rw [headerDefines, cellDefines, geometryDefines, sourceDefines, controlDefines, fluxDefines,
      transientDefines]
    rfl
  · rw [headerUses, cellUses, geometryUses, sourceUses, controlUses, fluxUses, transientUses]
    rfl

omit [Numeral K] in
theorem runRow_names (scene : Scene K) :
    Row.defines (runRow scene) = [] ∧
      Row.uses (runRow scene) = functionNames scene.transients.length := by
  have steps : ((List.range scene.transients.length).map (stepPhrase (K := K))).flatMap
      Phrase.uses = functionNames scene.transients.length := by
    rw [functionNames, List.flatMap_map, List.map_eq_flatMap]
    rfl
  unfold runRow
  cases scene.run <;>
    simpa [Row.defines, Row.uses, Clause.defines, Clause.uses, Argument.uses] using steps

omit [Numeral K] in
theorem displayRow_names (scene : Scene K) :
    Row.defines (displayRow scene) = [] ∧
      Row.uses (displayRow scene) = regionNames scene.fluxes.length := by
  constructor
  · refine List.flatMap_eq_nil_iff.mpr fun clause member => ?_
    simp only [displayRow, List.mem_append, List.mem_singleton, List.mem_map] at member
    rcases member with (rfl | ⟨number, _, rfl⟩) | rfl <;> rfl
  · rw [displayRow, Row.uses, List.flatMap_append, List.flatMap_append, List.flatMap_map,
      regionNames, List.map_eq_flatMap]
    exact List.append_nil _

/-- Every flux region and function is defined once, before the run control and the display use
it. -/
theorem outline_scoped (settings : Settings K) (time : String) (scene : Scene K) :
    Scoped [] (outline settings time scene) := by
  obtain ⟨defines, uses⟩ := definitionRows_names settings time scene
  obtain ⟨runDefines, runUses⟩ := runRow_names scene
  obtain ⟨displayDefines, displayUses⟩ := displayRow_names scene
  have distinct := names_nodup scene.fluxes.length scene.transients.length
  refine .append (.of_unused uses ?_) ?_
  · rwa [List.nil_append, defines]
  · rw [List.nil_append, defines]
    refine .cons ?_ ?_ (.cons ?_ ?_ (.nil _))
    · rw [runUses]
      exact List.subset_append_right _ _
    · rwa [runDefines, List.append_nil]
    · rw [displayUses, runDefines, List.append_nil]
      exact List.subset_append_left _ _
    · rwa [displayDefines, runDefines, List.append_nil, List.append_nil]

end Rows

section Drawing

variable [Numeral K]

/-- What an element is drawn with: a line with three layers for each of its segments, a connector
with a channel between caps of the upper material of the lines it joins. -/
inductive Shown (layout : Layout K) : Element K → List (Block K) → Prop
  | line {line : Line K} {blocks : List (Block K)} :
      (blocks.map fun block => (block.medium, block.left, block.right)) =
        (line.segments.flatMap fun segment =>
          [(line.property.materials.up, segment.start, segment.finish),
            (line.property.materials.inner, segment.start, segment.finish),
            (line.property.materials.down, segment.start, segment.finish)]) →
      Shown layout (.line line) blocks
  | connector {connector : Connector K} {startLine finishLine : Line K} {blocks : List (Block K)} :
      attachedLine layout connector.start = .ok startLine →
      attachedLine layout connector.finish = .ok finishLine →
      blocks.map Block.medium = [startLine.property.materials.up, connector.property.inner,
        finishLine.property.materials.up] →
      Shown layout (.connector connector) blocks

theorem drawn_shown {layout : Layout K} {element : Element K} (fits : element.Fits layout) :
    Shown layout element (drawn layout element) ∧
      ∀ block ∈ drawn layout element, block.thickness = layout.thickness := by
  cases fits with
  | @line line level =>
      refine ⟨.line ?_, ?_⟩
      · exact List.map_flatMap
      · intro block member
        obtain ⟨segment, _, layer⟩ := List.mem_flatMap.mp member
        rw [← level]
        simp only [Line.layers, List.mem_cons, List.not_mem_nil, or_false] at layer
        rcases layer with rfl | rfl | rfl <;> rfl
  | @connector connector level start finish =>
      obtain ⟨startLine, startFound⟩ := attachedLine_ok start
      obtain ⟨finishLine, finishFound⟩ := attachedLine_ok finish
      have able : drawn layout (.connector connector) =
          connector.blocks startLine finishLine := by
        simp only [drawn, elementBlocks, startFound, finishFound]
        rfl
      rw [able]
      refine ⟨.connector startFound finishFound rfl, ?_⟩
      intro block member
      rw [← level]
      simp only [Connector.blocks, List.mem_cons, List.not_mem_nil, or_false] at member
      rcases member with rfl | rfl | rfl <;> rfl

def sizedTemplates : List String :=
  ["geometry", "geometry_3d", "block_position", "block_position_3d"]

/-- The clause gives the structure no thickness that it does not have, and leaves out none that it
has. -/
def Clause.Suits (thickness : Option K) (clause : Clause K) : Prop :=
  (clause.template ∈ ["geometry_3d", "block_position_3d"] → thickness.isSome) ∧
    (clause.template ∈ ["geometry", "block_position"] → thickness = none)

omit [Numeral K] in
theorem Clause.Suits.of_other {clause : Clause K} (other : clause.template ∉ sizedTemplates)
    (thickness : Option K) : clause.Suits thickness := by
  simp only [sizedTemplates, List.mem_cons, List.not_mem_nil, or_false, not_or] at other
  simp [Clause.Suits, other]

omit [Numeral K] in
theorem suits_of_calls {rows : List (Row K)} {table : List Call} (calls : CallsWithin rows table)
    (others : ∀ call ∈ table, call.1 ∉ sizedTemplates) (thickness : Option K) :
    ∀ row ∈ rows, ∀ clause ∈ row, clause.Suits thickness := by
  intro row member clause known
  refine Clause.Suits.of_other (others (clause.template, clause.arguments.length) ?_) thickness
  refine calls row member (List.mem_flatMap.mpr ⟨clause, known, ?_⟩)
  exact List.mem_append_right _ (List.mem_singleton.mpr rfl)

theorem blockRow_suits {block : Block K} {thickness : Option K}
    (same : block.thickness = thickness) : ∀ clause ∈ blockRow block, clause.Suits thickness := by
  have material : block.medium.template.1 ∉ sizedTemplates := by
    cases block.medium <;> simp [Medium.template, sizedTemplates]
  have position : (positionClause block).Suits thickness := by
    rw [← same, positionClause]
    cases block.thickness <;> simp [Clause.Suits, Clause.plain]
  simp only [blockRow, List.forall_mem_cons]
  exact ⟨.of_other (by simp [Clause.plain, sizedTemplates]) _, position, .of_other material _,
    .of_other (by simp [Clause.plain, sizedTemplates]) _, List.forall_mem_nil _⟩

theorem geometryRows_suit {scene : Scene K} (fitted : scene.layout.Fitted)
    (thickness : scene.layout.thickness = scene.thickness) :
    ∀ row ∈ geometryRows scene, ∀ clause ∈ row, clause.Suits scene.thickness := by
  simp only [geometryRows, List.forall_mem_append, List.forall_mem_singleton]
  refine ⟨⟨.of_other (by simp [Clause.plain, sizedTemplates]) _, ?_⟩,
    .of_other (by simp [Clause.plain, sizedTemplates]) _⟩
  intro row member
  obtain ⟨element, listed, here⟩ := List.mem_flatMap.mp member
  rcases List.mem_append.mp here with comment | drawing
  · have calls := remarkRows_calls (K := K) element.comment (List.mem_singleton.mpr rfl)
    exact suits_of_calls calls (by decide) _ row comment
  · obtain ⟨block, shown, rfl⟩ := List.mem_map.mp drawing
    exact blockRow_suits (((drawn_shown (fitted element listed)).2 block shown).trans thickness)

theorem outline_suits {settings : Settings K} {time : String} {scene : Scene K}
    (fitted : scene.layout.Fitted) (thickness : scene.layout.thickness = scene.thickness) :
    ∀ row ∈ outline settings time scene, ∀ clause ∈ row, clause.Suits scene.thickness := by
  have cell : ∀ row ∈ [cellRow scene], ∀ clause ∈ row, clause.Suits scene.thickness := by
    unfold cellRow
    cases scene.thickness <;> simp [Clause.Suits, Clause.plain]
  have numbers : CallsWithin (numbered fluxRows 0 scene.fluxes) fluxCalls :=
    .flatMap fun entry => fluxRows_calls entry.2 entry.1
  have functions : CallsWithin (numbered transientRows 0 scene.transients) transientCalls :=
    .flatMap fun entry => transientRows_calls entry.2 entry.1
  have last : CallsWithin [runRow scene, displayRow scene] (runCalls ++ displayCalls) := by
    refine List.forall_mem_cons.mpr ⟨?_, List.forall_mem_singleton.mpr ?_⟩
    · exact List.Subset.trans (runRow_calls scene) (List.subset_append_left _ _)
    · exact List.Subset.trans (displayRow_calls scene) (List.subset_append_right _ _)
  simp only [outline, definitionRows, List.forall_mem_append]
  refine ⟨⟨⟨⟨⟨⟨⟨?_, cell⟩, geometryRows_suit fitted thickness⟩, ?_⟩, ?_⟩, ?_⟩, ?_⟩, ?_⟩
  · exact suits_of_calls (headerRows_calls _ _ _) (by decide) _
  · exact suits_of_calls (sourceRows_calls scene) (by decide) _
  · exact suits_of_calls (controlRows_calls scene) (by decide) _
  · exact suits_of_calls numbers (by decide) _
  · exact suits_of_calls functions (by decide) _
  · exact suits_of_calls last (by decide) _

end Drawing

section Programs

variable [Numeral K]

/-- What is known of the outline of a program. Its parts are in the order of the description, its
elements are drawn as they should be, all in the plane or all with a thickness, and what it names is
defined once and before it is used. -/
structure Structured (description : Description K) (settings : Settings K) (time : String)
    (scene : Scene K) : Prop where
  follows : scene.Follows description settings
  shown : ∀ element ∈ scene.layout.elements,
    Shown scene.layout element (drawn scene.layout element)
  suits : ∀ row ∈ outline settings time scene, ∀ clause ∈ row, clause.Suits scene.thickness
  defines : (definitionRows settings time scene).flatMap Row.defines =
    regionNames scene.fluxes.length ++ functionNames scene.transients.length
  steps : Row.uses (runRow scene) = functionNames scene.transients.length
  displays : Row.uses (displayRow scene) = regionNames scene.fluxes.length
  inScope : Scoped [] (outline settings time scene)

/-- The lines of a program that is written for a built scene are the rows of its outline, each
rendered and closed by a line break, whatever renders them. -/
theorem text_structured {description : Description K} {settings : Settings K} {scene : Scene K}
    {renderer : Renderer K} {time program : String}
    (built : Scene.build description settings = .ok scene)
    (written : text renderer settings time scene = .ok program) :
    Structured description settings time scene ∧
      ∃ draft, (write renderer settings time scene).run.run Draft.empty = (.ok (), draft) ∧
        draft.current = "" ∧
        program = String.join (draft.lines.toList.map fun line => line ++ "\n") ∧
        List.Forall₂ (fun row line => Row.render renderer row = .ok line)
          (outline settings time scene) draft.lines.toList := by
  have follows := Scene.build_follows built
  obtain ⟨_, outfit⟩ := follows.elements
  refine ⟨?_, text_passes outfit.fitted written⟩
  exact {
    follows
    shown := fun element member => (drawn_shown (outfit.fitted element member)).1
    suits := outline_suits outfit.fitted outfit.thickness
    defines := (definitionRows_names settings time scene).1
    steps := (runRow_names scene).2
    displays := (displayRow_names scene).2
    inScope := outline_scoped settings time scene }

def observedSlab : Description ℚ :=
  { Scene.overlappedEnd with
    geometry := { Scene.overlappedEnd.geometry with thickness := some (1 / 2) }
    controls := { Scene.overlappedEnd.controls with snapshot := some ⟨"x", "h", none⟩ } }

omit [Numeral K] in
theorem line_of_row {renderer : Renderer K} {rows : List (Row K)} {lines : List String}
    (rendered : List.Forall₂ (fun row line => Row.render renderer row = .ok line) rows lines)
    {place : Nat} {line : String}
    (shows : (rows[place]?.bind fun row => (Row.render renderer row).toOption) = some line) :
    lines[place]? = some line := by
  induction rendered generalizing place with
  | nil => simp at shows
  | cons here _ ih =>
      cases place with
      | zero => simpa [here, Except.toOption] using shows
      | succ place => exact ih (by simpa using shows)

theorem observedSlab_structured :
    ∃ scene program, Scene.build observedSlab .default = .ok scene ∧
      text Templates.builtinTemplates .default "now" scene = .ok program ∧
      Structured observedSlab .default "now" scene ∧
        ∃ draft, (write Templates.builtinTemplates .default "now" scene).run.run Draft.empty =
            (.ok (), draft) ∧
          draft.current = "" ∧
          program = String.join (draft.lines.toList.map fun line => line ++ "\n") ∧
          List.Forall₂ (fun row line => Row.render Templates.builtinTemplates row = .ok line)
            (outline .default "now" scene) draft.lines.toList ∧
          draft.lines.toList[3]? =
            some "(set! geometry-lattice (make lattice (size 50.0 19.0 4.5)))" ∧
          draft.lines.toList[54]? =
            some "(define transient0 (to-appended \"hx\" (at-every 0.6 output-hfield-x)))" := by
  let line (place : Nat) : Option String :=
    (Scene.build observedSlab .default).toOption.bind fun scene =>
      (outline .default "now" scene)[place]?.bind fun row =>
        (Row.render Templates.builtinTemplates row).toOption
  have cell : line 3 = some "(set! geometry-lattice (make lattice (size 50.0 19.0 4.5)))" := by
    decide +kernel
  have snapshot :
      line 54 = some "(define transient0 (to-appended \"hx\" (at-every 0.6 output-hfield-x)))" := by
    decide +kernel
  cases built : Scene.build observedSlab .default with
  | error failure => simp [line, built, Except.toOption] at cell
  | ok scene =>
      simp only [line, built, Except.toOption, Option.bind_some] at cell snapshot
      obtain ⟨_, outfit⟩ := (Scene.build_follows built).elements
      obtain ⟨program, written⟩ := builtin_text outfit.fitted .default "now"
      obtain ⟨structured, draft, ran, closed, joined, rendered⟩ := text_structured built written
      exact ⟨scene, program, rfl, written, structured, draft, ran, closed, joined, rendered,
        line_of_row rendered cell, line_of_row rendered snapshot⟩

end Programs

end Waveguide.Program
