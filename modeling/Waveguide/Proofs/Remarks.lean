import Mathlib
import Waveguide.Proofs.Fittings
import Waveguide.Proofs.Outline
import Waveguide.Proofs.Silence

/-!
Where comments stand in a program. Each comment of a description is one row of its own, above the
rows of what it is a comment on. The other rows are those of the description without its comments.
-/

namespace Waveguide

def Description.remarks {K : Type} (description : Description K) : List String :=
  description.comment.toList ++
    description.geometry.elements.flatMap (fun spec => spec.comment.toList) ++
    description.sources.flatMap (fun spec => spec.comment.toList) ++
    description.collectors.spectral.flatMap (fun spec => spec.comment.toList) ++
    description.collectors.temporal.flatMap fun spec => spec.comment.toList

def Scene.remarks {K : Type} (scene : Scene K) : List String :=
  scene.comment.toList ++
    scene.layout.elements.flatMap (fun element => element.comment.toList) ++
    scene.sources.flatMap (fun source => source.comment.toList) ++
    scene.fluxes.flatMap (fun flux => flux.comment.toList) ++
    scene.transients.flatMap fun transient => transient.comment.toList

theorem flatMap_eq_of_forall₂ {α β γ : Type} {first : α → List γ} {second : β → List γ}
    {items : List α} {others : List β}
    (related : List.Forall₂ (fun item other => second other = first item) items others) :
    others.flatMap second = items.flatMap first := by
  induction related with
  | nil => rfl
  | cons same _ ih => rw [List.flatMap_cons, List.flatMap_cons, same, ih]

theorem Scene.Follows.remarks_eq {K : Type} [Numeral K] {description : Description K}
    {settings : Settings K} {scene : Scene K} (follows : scene.Follows description settings) :
    scene.remarks = description.remarks := by
  obtain ⟨fragments, outfit⟩ := follows.elements
  obtain ⟨observed, snapshot, observes⟩ := follows.transients
  have elements : scene.layout.elements.flatMap (fun element => element.comment.toList) =
      description.geometry.elements.flatMap (fun spec => spec.comment.toList) := by
    have comments := congrArg (List.flatMap Option.toList) outfit.comments
    have uncommented :
        (List.replicate fragments (none : Option String)).flatMap Option.toList = [] := by
      simp [List.flatMap_eq_nil_iff, List.mem_replicate]
    simpa [Layout.comments, List.flatMap_map, Function.comp_def, uncommented] using comments
  have sources := flatMap_eq_of_forall₂ (follows.sources.imp fun _ _ same =>
    congrArg Option.toList same.1)
  have fluxes := flatMap_eq_of_forall₂ (follows.fluxes.imp fun _ _ same =>
    congrArg Option.toList same.1)
  have collectors := flatMap_eq_of_forall₂ (observes.imp fun _ _ same =>
    congrArg Option.toList same.1)
  have transients : scene.transients.flatMap (fun transient => transient.comment.toList) =
      observed.flatMap fun transient => transient.comment.toList := by
    cases taken : description.controls.snapshot with
    | none => rw [snapshot.without taken]
    | some given =>
        obtain ⟨entry, first, _, _, _, _, uncommented⟩ := snapshot.first given taken
        rw [first, List.flatMap_cons, uncommented]
        rfl
  rw [remarks, Description.remarks, follows.comment, elements, sources, fluxes, transients,
    collectors]

namespace Program

section Silences

variable {K : Type}

/-- Rows, the comments of which are remarks, and the rows without these remarks. -/
inductive Silences : List (Row K) → List String → List (Row K) → Prop where
  | nil : Silences [] [] []
  | remark {rows comments others} (comment : String) : Silences rows comments others →
      Silences (remark (.slot (.text comment)) :: rows) (comment :: comments) others
  | row {rows comments others} (row : Row K) : Silences rows comments others →
      Silences (row :: rows) comments (row :: others)

namespace Silences

variable {rows more others rest : List (Row K)} {comments further : List String}

theorem append (first : Silences rows comments others) (second : Silences more further rest) :
    Silences (rows ++ more) (comments ++ further) (others ++ rest) := by
  induction first with
  | nil => exact second
  | remark comment _ ih => exact .remark comment ih
  | row row _ ih => exact .row row ih

theorem same (rows : List (Row K)) : Silences rows [] rows := by
  induction rows with
  | nil => exact .nil
  | cons row rows ih => exact .row row ih

theorem remarkRows (comment : Option String) :
    Silences (K := K) (Program.remarkRows comment) comment.toList [] := by
  cases comment with
  | none => exact .nil
  | some comment => exact .remark comment .nil

theorem under (comment : Option String) (rows : List (Row K)) :
    Silences (Program.remarkRows comment ++ rows) comment.toList rows := by
  simpa using (remarkRows comment).append (same rows)

theorem between (first last : Row K) (silences : Silences rows comments others) :
    Silences ([first] ++ rows ++ [last]) comments ([first] ++ others ++ [last]) := by
  simpa using ((same [first]).append silences).append (same [last])

theorem flatMap {α β : Type} {given : α → List (Row K)} {comments : α → List String}
    {silenced : β → List (Row K)} {silent : α → β}
    (each : ∀ item, Silences (given item) (comments item) (silenced (silent item)))
    (items : List α) :
    Silences (items.flatMap given) (items.flatMap comments)
      ((items.map silent).flatMap silenced) := by
  induction items with
  | nil => exact .nil
  | cons item items ih => exact (each item).append ih

theorem numbered {α : Type} {given : Nat → α → List (Row K)} {comments : α → List String}
    {silent : α → α}
    (each : ∀ number item, Silences (given number item) (comments item)
      (given number (silent item)))
    (first : Nat) (items : List α) :
    Silences (Program.numbered given first items) (items.flatMap comments)
      (Program.numbered given first (items.map silent)) := by
  induction items generalizing first with
  | nil => exact .nil
  | cons item items ih => exact (each first item).append (ih (first + 1))

end Silences

end Silences

section Bodies

variable {K : Type} [Numeral K]

def bodyRows (scene : Scene K) : List (Row K) :=
  remarkRows scene.comment ++ [cellRow scene] ++ geometryRows scene ++ sourceRows scene ++
    controlRows scene ++ Program.numbered fluxRows 0 scene.fluxes ++
    Program.numbered transientRows 0 scene.transients ++ [runRow scene, displayRow scene]

theorem outline_eq (settings : Settings K) (time : String) (scene : Scene K) :
    outline settings time scene =
      [remark (.phrases [⟨"intro", []⟩]), remark (.phrases [⟨"generated", [.text time]⟩]),
        remark (.phrases [⟨"base", [.text settings.inputName]⟩])] ++ bodyRows scene := by
  simp [outline, definitionRows, headerRows, bodyRows]

theorem cellRow_silent (scene : Scene K) : cellRow scene.silent = cellRow scene := by
  have size : cellSize scene.silent = cellSize scene := by
    simp only [cellSize, Scene.silent, Layout.silent, Guise.layout, Layout.mapElements,
      List.isEmpty_map]
  unfold cellRow
  rw [size]
  rfl

theorem runRow_silent (scene : Scene K) : runRow scene.silent = runRow scene := by
  simp only [runRow, Scene.silent, List.length_map]

theorem displayRow_silent (scene : Scene K) : displayRow scene.silent = displayRow scene := by
  simp only [displayRow, Scene.silent, List.length_map]

theorem elementRows_silences (layout : Layout K) (element : Element K) :
    Silences (elementRows layout element) element.comment.toList
      (elementRows layout.silent (Guise.silent.element element)) := by
  have comment : (Guise.silent.element element).comment = none := by
    cases element <;> rfl
  have drawn : drawn layout.silent (Guise.silent.element element) = drawn layout element := by
    rw [Program.drawn, Program.drawn, Layout.silent, Guise.silent.elementBlocks]
  rw [elementRows, elementRows, comment, drawn]
  exact .under element.comment _

theorem geometryRows_silences (scene : Scene K) :
    Silences (geometryRows scene)
      (scene.layout.elements.flatMap fun element => element.comment.toList)
      (geometryRows scene.silent) :=
  .between _ _ (.flatMap (elementRows_silences scene.layout) scene.layout.elements)

theorem sourceRows_silences (scene : Scene K) :
    Silences (sourceRows scene) (scene.sources.flatMap fun source => source.comment.toList)
      (sourceRows scene.silent) := by
  have each (source : Source K) :
      Silences (remarkRows source.comment ++ [sourceRow source]) source.comment.toList
        ((fun other => remarkRows other.comment ++ [sourceRow other]) source.silent) :=
    .under source.comment _
  exact .between _ _ (.flatMap each scene.sources)

theorem fluxRows_silences (number : Nat) (flux : FluxPoint K) :
    Silences (fluxRows number flux) flux.comment.toList (fluxRows number flux.silent) :=
  .under flux.comment _

omit [Numeral K] in
theorem transientRows_silences (number : Nat) (transient : Transient K) :
    Silences (transientRows number transient) transient.comment.toList
      (transientRows number transient.silent) :=
  .under transient.comment _

theorem bodyRows_silences (scene : Scene K) :
    Silences (bodyRows scene) scene.remarks (bodyRows scene.silent) := by
  have top : Silences (remarkRows scene.comment ++ [cellRow scene]) scene.comment.toList
      (remarkRows scene.silent.comment ++ [cellRow scene.silent]) := by
    rw [cellRow_silent]
    exact .under scene.comment _
  have controls : Silences (controlRows scene) [] (controlRows scene.silent) := .same _
  have fluxes : Silences (Program.numbered fluxRows 0 scene.fluxes)
      (scene.fluxes.flatMap fun flux => flux.comment.toList)
      (Program.numbered fluxRows 0 scene.silent.fluxes) :=
    .numbered fluxRows_silences 0 scene.fluxes
  have transients : Silences (Program.numbered transientRows 0 scene.transients)
      (scene.transients.flatMap fun transient => transient.comment.toList)
      (Program.numbered transientRows 0 scene.silent.transients) :=
    .numbered transientRows_silences 0 scene.transients
  have bottom : Silences [runRow scene, displayRow scene] []
      [runRow scene.silent, displayRow scene.silent] := by
    rw [runRow_silent, displayRow_silent]
    exact .same _
  have all := (((((top.append (geometryRows_silences scene)).append
    (sourceRows_silences scene)).append controls).append fluxes).append transients).append bottom
  simpa [bodyRows, Scene.remarks] using all

theorem outline_silences (settings : Settings K) (time : String) (scene : Scene K) :
    Silences (outline settings time scene) scene.remarks (outline settings time scene.silent) := by
  rw [outline_eq, outline_eq]
  exact (Silences.same _).append (bodyRows_silences scene)

end Bodies

end Program

end Waveguide
