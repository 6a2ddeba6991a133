import Waveguide.Proofs.Coordinates
import Waveguide.Proofs.Filling
import Waveguide.Proofs.Writing

/-!
A scene that is built can always be written. An accepted resource has each template that the writer
uses, the writer gives each as many values as it takes, and connectors join lines. What may still
fail is a template of the resource itself, and none of the built-in ones does.
-/

namespace Waveguide

theorem Template.lookup_slots : ∀ slot ∈ Template.slots,
    Template.slots.lookup slot.1 = some slot.2 := by
  decide +kernel

namespace Templates

variable {K : Type}

theorem missing_nil {sources : List (String × String)} :
    missing sources = [] ↔ ∀ slot ∈ Template.slots, (sources.lookup slot.1).isSome := by
  simp only [missing, List.filter_eq_nil_iff, List.forall_mem_map, Bool.not_eq_true,
    Option.isNone_eq_false_iff]

theorem ofDocument_complete {resource : Option Yaml} {templates : Templates}
    (accepted : (ofDocument resource : Except (Failure K) Templates) = .ok templates) :
    ∀ slot ∈ Template.slots, (templates.sources.lookup slot.1).isSome := by
  simp only [ofDocument] at accepted
  split at accepted
  · contradiction
  · split at accepted
    · rename_i checked
      obtain rfl := Except.ok.inj accepted
      simp only [check] at checked
      split at checked
      · contradiction
      · split at checked
        · rename_i complete
          obtain rfl := Except.ok.inj checked
          exact missing_nil.mp (List.isEmpty_iff.mp complete)
        · contradiction
    · contradiction

theorem renderWith_fault {fill : Filler K} {templates : Templates} {name : String}
    {slots : List (Slot K)} {failure : Failure K} (listed : (name, slots.length) ∈ Template.slots)
    (present : (templates.sources.lookup name).isSome)
    (failed : templates.renderWith fill name slots = .error failure) :
    ∃ fault, failure = .template name fault := by
  obtain ⟨source, known⟩ := Option.isSome_iff_exists.mp present
  rw [renderWith, Template.lookup_slots _ listed] at failed
  simp only [ne_eq, not_true_eq_false, if_false, known] at failed
  split at failed
  · contradiction
  · exact ⟨_, (Except.error.inj failed).symm⟩

end Templates

namespace Program

variable {K : Type} [Numeral K]

omit [Numeral K] in
theorem CallsWithin.mono {rows : List (Row K)} {table larger : List Call}
    (within : CallsWithin rows table) (sub : table ⊆ larger) : CallsWithin rows larger :=
  fun row member => List.Subset.trans (within row member) sub

omit [Numeral K] in
theorem CallsWithin.numbered {α : Type} {rows : Nat → α → List (Row K)} {table : List Call}
    (each : ∀ number item, CallsWithin (rows number item) table) (first : Nat) (items : List α) :
    CallsWithin (Program.numbered rows first items) table :=
  .flatMap fun entry => each entry.2 entry.1

theorem outline_calls (settings : Settings K) (time : String) (scene : Scene K) :
    CallsWithin (outline settings time scene) Template.slots := by
  have header := (headerRows_calls (K := K) time settings.inputName scene.comment).mono
    (show headerCalls ⊆ Template.slots by decide)
  have cell := (CallsWithin.single (cellRow_calls scene)).mono
    (show cellCalls ⊆ Template.slots by decide)
  have geometry := (geometryRows_calls scene).mono
    (show geometryCalls ⊆ Template.slots by decide)
  have sources := (sourceRows_calls scene).mono (show sourceCalls ⊆ Template.slots by decide)
  have controls := (controlRows_calls scene).mono (show controlCalls ⊆ Template.slots by decide)
  have fluxes := (CallsWithin.numbered fluxRows_calls 0 scene.fluxes).mono
    (show fluxCalls ⊆ Template.slots by decide)
  have transients := (CallsWithin.numbered transientRows_calls 0 scene.transients).mono
    (show transientCalls ⊆ Template.slots by decide)
  have run := (CallsWithin.single (runRow_calls scene)).mono
    (show runCalls ⊆ Template.slots by decide)
  have display := (CallsWithin.single (displayRow_calls scene)).mono
    (show displayCalls ⊆ Template.slots by decide)
  exact ((((((header.append cell).append geometry).append sources).append controls).append
    fluxes).append transients).append (run.append display)

/-- What holds of a scene that can be written. -/
structure Emittable (scene : Scene K) : Prop where
  joined : ∀ connector, .connector connector ∈ scene.layout.elements →
    scene.layout.Joins connector.start ∧ scene.layout.Joins connector.finish
  /-- Every call of the outline is to a template that the resource has, with as many values as the
  template takes. -/
  calls : ∀ resource templates,
    (Templates.ofDocument resource : Except (Failure K) Templates) = .ok templates →
      ∀ settings time, ∀ call ∈ (outline settings time scene).flatMap Row.calls,
        Template.slots.lookup call.1 = some call.2 ∧ (templates.sources.lookup call.1).isSome
  /-- The writer makes no other calls: what it writes depends on the answers to these alone. -/
  made : ∀ settings time (first second : Renderer K),
    (∀ name slots, (name, slots.length) ∈ (outline settings time scene).flatMap Row.calls →
      first name slots = second name slots) →
    text first settings time scene = text second settings time scene
  /-- Nothing but the text of a template can fail. -/
  stops : ∀ resource templates,
    (Templates.ofDocument resource : Except (Failure K) Templates) = .ok templates →
      ∀ (fill : Filler K) settings time failure,
        text (templates.renderWith fill) settings time scene = .error failure →
          ∃ name fault, failure = .template name fault

theorem emittable_of_fitted {scene : Scene K} (fitted : scene.layout.Fitted) : Emittable scene where
  joined connector member := by
    cases fitted _ member with
    | connector _ start finish => exact ⟨start, finish⟩
  calls resource templates accepted settings time call known := by
    obtain ⟨row, member, here⟩ := List.mem_flatMap.mp known
    have listed := outline_calls settings time scene row member here
    exact ⟨Template.lookup_slots call listed, Templates.ofDocument_complete accepted call listed⟩
  made settings time first second agree := text_agree fitted agree
  stops resource templates accepted fill settings time failure failed := by
    obtain ⟨name, slots, known, failed⟩ := text_stops fitted failed
    obtain ⟨row, member, here⟩ := List.mem_flatMap.mp known
    have listed := outline_calls settings time scene row member here
    have present := Templates.ofDocument_complete accepted _ listed
    exact ⟨name, Templates.renderWith_fault listed present failed⟩

theorem builtin_text {scene : Scene K} (fitted : scene.layout.Fitted) (settings : Settings K)
    (time : String) :
    ∃ program, text Templates.builtinTemplates settings time scene = .ok program := by
  cases written : text Templates.builtinTemplates settings time scene with
  | ok program => exact ⟨program, rfl⟩
  | error failure =>
      obtain ⟨name, slots, known, failed⟩ := text_stops fitted written
      obtain ⟨row, member, here⟩ := List.mem_flatMap.mp known
      have listed := outline_calls settings time scene row member here
      obtain ⟨filled, rendered⟩ :=
        Templates.builtinTemplates_renders (Template.lookup_slots _ listed)
      rw [rendered] at failed
      contradiction

theorem ofDescription_builtin {description : Description K} {settings : Settings K}
    {scene : Scene K} (built : Scene.build description settings = .ok scene) (time : String) :
    ∃ output,
      ofDescription description Templates.builtinTemplates settings time = .ok output := by
  obtain ⟨_, outfit⟩ := (Scene.build_follows built).elements
  obtain ⟨program, rendered⟩ := builtin_text outfit.fitted settings time
  refine ⟨⟨program, scene.diagnostics, description.output.bind OutputSpec.controlFile⟩, ?_⟩
  simp [ofDescription, built, rendered, bind, Except.bind]

/-- A scene that is built can be written, whatever the resource. With the built-in resource, a
translation fails exactly when there is no scene to write. -/
theorem translation_emits (description : Description K) (settings : Settings K) :
    (∀ scene, Scene.build description settings = .ok scene → Emittable scene) ∧
    ∃ templates, (Templates.builtin : Except (Failure K) Templates) = .ok templates ∧
      (∀ scene, Scene.build description settings = .ok scene →
        ∀ others time, ∃ program, text templates others time scene = .ok program) ∧
      ∀ time failure, ofDescription description templates settings time = .error failure ↔
        Scene.build description settings = .error failure := by
  have fitted {scene : Scene K} (built : Scene.build description settings = .ok scene) :
      scene.layout.Fitted := by
    obtain ⟨_, outfit⟩ := (Scene.build_follows built).elements
    exact outfit.fitted
  refine ⟨fun scene built => emittable_of_fitted (fitted built), Templates.builtinTemplates,
    Templates.builtin_accepted, fun scene built => builtin_text (fitted built), ?_⟩
  intro time failure
  cases built : Scene.build description settings with
  | error stopped => simp [ofDescription, built, bind, Except.bind]
  | ok scene =>
      obtain ⟨output, written⟩ := ofDescription_builtin built time
      simp [written]

theorem relatedLines_emits :
    ∃ scene templates program, Scene.build Scene.relatedLines .default = .ok scene ∧
      Emittable scene ∧ (Templates.builtin : Except (Failure ℚ) Templates) = .ok templates ∧
      text templates .default "now" scene = .ok program := by
  have builds : (Scene.build Scene.relatedLines .default).isOk = true := by decide +kernel
  cases built : Scene.build Scene.relatedLines .default with
  | error failure =>
      rw [built] at builds
      contradiction
  | ok scene =>
      obtain ⟨emittable, templates, accepted, writes, -⟩ :=
        translation_emits Scene.relatedLines .default
      obtain ⟨program, written⟩ := writes scene built .default "now"
      exact ⟨scene, templates, program, rfl, emittable scene built, accepted, written⟩

end Program

end Waveguide
