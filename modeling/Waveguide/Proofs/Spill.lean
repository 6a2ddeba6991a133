import Mathlib
import Waveguide.Proofs.Emission
import Waveguide.Proofs.Remarks

/-!
What comments add to a program. The built-in template for a comment makes a remark of its first line
only: any other line of the comment stands in the program as it is, and is code unless it starts as
a remark by itself.
-/

namespace Waveguide

section Text

theorem tail_splitOn_append {separator : Char} {text : List Char} (free : separator ∉ text)
    (rest : List Char) :
    ((text ++ rest).splitOn separator).tail = (rest.splitOn separator).tail := by
  induction text with
  | nil => rfl
  | cons c text ih =>
      simp only [List.mem_cons, not_or] at free
      have other : ¬ (c == separator) = true := by simpa using Ne.symm free.1
      rw [List.cons_append, List.splitOn_cons_eq_if_modifyHead, if_neg other,
        List.tail_modifyHead, ih free.2]

/-- The lines of a text that are no remarks. -/
def codeLines (text : String) : List (List Char) :=
  (text.toList.splitOn '\n').filter fun line => line.head? ≠ some ';'

/-- The further lines of a comment that do not start as remarks themselves. -/
def spill (comment : String) : List (List Char) :=
  (comment.toList.splitOn '\n').tail.filter fun line => line.head? ≠ some ';'

/-- Each further line of a comment starts as a remark itself. -/
def Contained (comment : String) : Prop :=
  ∀ line ∈ (comment.toList.splitOn '\n').tail, line.head? = some ';'

instance (comment : String) : Decidable (Contained comment) :=
  inferInstanceAs (Decidable (∀ line ∈ (comment.toList.splitOn '\n').tail, line.head? = some ';'))

theorem spill_eq_nil_iff (comment : String) : spill comment = [] ↔ Contained comment := by
  simp [spill, Contained]

theorem spills_eq_nil_iff {comments : List String} :
    comments.flatMap spill = [] ↔ ∀ comment ∈ comments, Contained comment := by
  simp only [List.flatMap_eq_nil_iff, spill_eq_nil_iff]

theorem spill_append {text : String} (free : '\n' ∉ text.toList) (comment : String) :
    spill (text ++ comment) = spill comment := by
  rw [spill, String.toList_append, tail_splitOn_append free, spill]

theorem codeLines_remark (comment : String) : codeLines ("; " ++ comment) = spill comment := by
  have spelled : ("; " ++ comment).toList = ';' :: ' ' :: comment.toList := by simp
  obtain ⟨line, lines, split⟩ :=
    List.exists_cons_of_ne_nil (List.splitOn_ne_nil '\n' comment.toList)
  simp [codeLines, spelled, spill, List.splitOn_cons_eq_if_modifyHead, split]

theorem codeLines_line (line rest : String) :
    codeLines (line ++ "\n" ++ rest) = codeLines line ++ codeLines rest := by
  have split : (line ++ "\n" ++ rest).toList = line.toList ++ '\n' :: rest.toList := by simp
  rw [codeLines, split, List.splitOn_append_cons_self, List.filter_append]
  rfl

theorem codeLines_join (lines : List String) :
    codeLines (String.join (lines.map (· ++ "\n"))) = lines.flatMap codeLines ++ [[]] := by
  induction lines with
  | nil => rfl
  | cons line lines ih =>
      rw [List.map_cons, String.join_cons, codeLines_line, ih, List.flatMap_cons,
        List.append_assoc]

end Text

inductive Interleaved {α : Type} : List α → List α → List α → Prop where
  | nil : Interleaved [] [] []
  | left {first second merged} (item : α) : Interleaved first second merged →
      Interleaved (item :: first) second (item :: merged)
  | right {first second merged} (item : α) : Interleaved first second merged →
      Interleaved first (item :: second) (item :: merged)

namespace Interleaved

variable {α : Type} {first second merged more further rest : List α}

theorem left_only (items : List α) : Interleaved items [] items := by
  induction items with
  | nil => exact .nil
  | cons item items ih => exact .left item ih

theorem right_only (items : List α) : Interleaved [] items items := by
  induction items with
  | nil => exact .nil
  | cons item items ih => exact .right item ih

theorem append (merges : Interleaved first second merged) (others : Interleaved more further rest) :
    Interleaved (first ++ more) (second ++ further) (merged ++ rest) := by
  induction merges with
  | nil => exact others
  | left item _ ih => exact .left item ih
  | right item _ ih => exact .right item ih

theorem length_eq (merges : Interleaved first second merged) :
    merged.length = first.length + second.length := by
  induction merges with
  | nil => rfl
  | left item _ ih =>
      simp only [List.length_cons, ih]
      omega
  | right item _ ih =>
      simp only [List.length_cons, ih]
      omega

theorem eq_iff (merges : Interleaved first second merged) : merged = first ↔ second = [] := by
  constructor
  · rintro rfl
    exact List.length_eq_zero_iff.mp (by have := merges.length_eq; omega)
  · intro none
    induction merges with
    | nil => rfl
    | left item _ ih => rw [ih none]
    | right item _ _ => contradiction

end Interleaved

namespace Program

section Code

variable {K : Type} [Numeral K]

theorem render_single {name : String} (text before value : String)
    (declared : Template.slots.lookup name = some 1)
    (entry : Templates.builtinEntries.lookup name = some text)
    (spelled : text.toList = before.toList ++ ['$', '0']) (plain : '$' ∉ before.toList) :
    Templates.builtinTemplates.render name [(Slot.text value : Slot K)] =
      .ok (before ++ value) := by
  have filled : Template.fill [(Slot.text value : Slot K)] ['$', '0'] = value.toList := by
    have place : Decimal.digitValue '0' = 0 := by decide
    simp [Template.fill, place, Slot.render]
  rw [Templates.builtinTemplates_render declared entry, spelled,
    Template.fill_append _ _ _ plain, filled]
  simp

theorem render_comment (comment : String) :
    Templates.builtinTemplates.render "comment" [(Slot.text comment : Slot K)] =
      .ok ("; " ++ comment) :=
  render_single "; $0" "; " comment (by decide +kernel) (by decide +kernel) (by decide)
    (by decide)

theorem render_generated (time : String) :
    Templates.builtinTemplates.render "generated" [(Slot.text time : Slot K)] =
      .ok ("Generated on " ++ time) :=
  render_single "Generated on $0" "Generated on " time (by decide +kernel) (by decide +kernel)
    (by decide) (by decide)

def Row.code (row : Row K) : List (List Char) :=
  ((Row.render Templates.builtinTemplates row).toOption.map codeLines).getD []

theorem Row.code_of_render {row : Row K} {line : String}
    (rendered : Row.render Templates.builtinTemplates row = .ok line) :
    Row.code row = codeLines line := by
  simp [Row.code, rendered, Except.toOption]

theorem remark_code (comment : String) :
    Row.code (K := K) (remark (.slot (.text comment))) = spill comment := by
  have rendered : Row.render Templates.builtinTemplates (K := K) (remark (.slot (.text comment))) =
      .ok ("; " ++ comment) := by
    simp [Row.render, remark, Clause.render, Argument.fill, render_comment, Except.map, bind,
      Except.bind, pure, Except.pure, String.join]
  rw [Row.code_of_render rendered, codeLines_remark]

theorem generated_code (time : String) :
    Row.code (K := K) (remark (.phrases [⟨"generated", [.text time]⟩])) = spill time := by
  have rendered : Row.render Templates.builtinTemplates (K := K)
      (remark (.phrases [⟨"generated", [.text time]⟩])) =
        .ok ("; " ++ ("Generated on " ++ time)) := by
    simp [Row.render, remark, Clause.render, Argument.fill, Phrase.render, render_generated,
      render_comment, Except.map, bind, Except.bind, pure, Except.pure, String.join]
  rw [Row.code_of_render rendered, codeLines_remark, spill_append (by decide)]

theorem codeLines_program {settings : Settings K} {time program : String} {scene : Scene K}
    (fitted : scene.layout.Fitted)
    (written : text Templates.builtinTemplates settings time scene = .ok program) :
    codeLines program = (outline settings time scene).flatMap Row.code ++ [[]] := by
  obtain ⟨draft, _, _, rfl, rendered⟩ := text_passes fitted written
  have codes := flatMap_eq_of_forall₂ (rendered.imp fun _ _ line => (Row.code_of_render line).symm)
  rw [codeLines_join, codes]

theorem Silences.code {rows others : List (Row K)} {comments : List String}
    (silences : Silences rows comments others) :
    Interleaved (others.flatMap Row.code) (comments.flatMap spill) (rows.flatMap Row.code) := by
  induction silences with
  | nil => exact .nil
  | remark comment _ ih =>
      rw [List.flatMap_cons, List.flatMap_cons, remark_code]
      exact (Interleaved.right_only (spill comment)).append ih
  | row row _ ih => exact (Interleaved.left_only (Row.code row)).append ih

theorem outline_code (settings : Settings K) (scene : Scene K) {time later : String}
    (dated : Contained time) (redated : Contained later) :
    (outline settings time scene).flatMap Row.code =
      (outline settings later scene).flatMap Row.code := by
  have nothing := (spill_eq_nil_iff time).mpr dated
  have neither := (spill_eq_nil_iff later).mpr redated
  simp only [outline_eq, List.flatMap_append, List.flatMap_cons, generated_code, nothing, neither]

section Descriptions

variable {description first second : Description K} {settings : Settings K}
  {time later : String} {output other : Output}

theorem ofDescription_code
    (written : ofDescription description Templates.builtinTemplates settings time = .ok output) :
    ∃ scene, Scene.build description settings = .ok scene ∧
      codeLines output.program = (outline settings time scene).flatMap Row.code ++ [[]] := by
  unfold ofDescription at written
  obtain ⟨scene, built, rest⟩ := bind_eq_ok.mp written
  obtain ⟨program, rendered, finished⟩ := bind_eq_ok.mp rest
  obtain rfl := Except.ok.inj finished
  obtain ⟨_, outfit⟩ := (Scene.build_follows built).elements
  exact ⟨scene, built, codeLines_program outfit.fitted rendered⟩

/-- A program is the code of the same description without its comments, and what spills over from
them. -/
theorem ofDescription_interleaved
    (written : ofDescription description Templates.builtinTemplates settings time = .ok output) :
    ∃ base, ofDescription description.silent Templates.builtinTemplates settings time = .ok base ∧
      Interleaved (codeLines base.program) (description.remarks.flatMap spill)
        (codeLines output.program) := by
  obtain ⟨scene, built, code⟩ := ofDescription_code written
  have silenced : Scene.build description.silent settings = .ok scene.silent := by
    rw [Scene.build_silent, built]
    rfl
  obtain ⟨base, rewritten⟩ := ofDescription_builtin silenced time
  obtain ⟨_, again, bare⟩ := ofDescription_code rewritten
  rw [silenced] at again
  obtain rfl := Except.ok.inj again
  refine ⟨base, rewritten, ?_⟩
  rw [code, bare, ← (Scene.build_follows built).remarks_eq]
  simpa using (outline_silences settings time scene).code.append (.left_only [[]])

theorem ofDescription_dated
    (written : ofDescription description Templates.builtinTemplates settings time = .ok output)
    (rewritten : ofDescription description Templates.builtinTemplates settings later = .ok other)
    (dated : Contained time) (redated : Contained later) :
    codeLines output.program = codeLines other.program := by
  obtain ⟨scene, built, code⟩ := ofDescription_code written
  obtain ⟨_, again, recode⟩ := ofDescription_code rewritten
  rw [built] at again
  obtain rfl := Except.ok.inj again
  rw [code, recode, outline_code settings scene dated redated]

/-- Descriptions that differ in comments only are the same code, but for what spills over from the
comments. Beside one from which nothing spills, another is the same code exactly if nothing spills
from it either. -/
theorem comments_spill {templates : Templates} (alike : first.silent = second.silent)
    (loaded : (Templates.builtin : Except (Failure K) Templates) = .ok templates)
    (written : ofDescription first templates settings time = .ok output)
    (rewritten : ofDescription second templates settings later = .ok other)
    (dated : Contained time) (redated : Contained later) :
    (∃ base, ofDescription first.silent templates settings time = .ok base ∧
      Interleaved (codeLines base.program) (first.remarks.flatMap spill)
        (codeLines output.program) ∧
      Interleaved (codeLines base.program) (second.remarks.flatMap spill)
        (codeLines other.program)) ∧
    ((∀ remark ∈ second.remarks, Contained remark) →
      (codeLines output.program = codeLines other.program ↔
        ∀ remark ∈ first.remarks, Contained remark)) := by
  rw [Templates.builtin_accepted] at loaded
  obtain rfl := Except.ok.inj loaded
  obtain ⟨base, silenced, merged⟩ := ofDescription_interleaved written
  obtain ⟨rebased, resilenced, remerged⟩ := ofDescription_interleaved rewritten
  -- Both are compared with what the same description without comments is written as.
  rw [← alike] at resilenced
  have same := ofDescription_dated silenced resilenced dated redated
  rw [← same] at remerged
  refine ⟨⟨base, silenced, merged, remerged⟩, fun plain => ?_⟩
  have still : codeLines other.program = codeLines base.program :=
    remerged.eq_iff.mpr (spills_eq_nil_iff.mpr plain)
  rw [still, merged.eq_iff, spills_eq_nil_iff]

end Descriptions

end Code

section Remarked

open Scene (overlappedEnd)

def remarked (comment : String) : Description ℚ := { overlappedEnd with comment := some comment }

theorem remarked_written (comment : String) :
    ∃ output, ofDescription (remarked comment) Templates.builtinTemplates .default "now" =
      .ok output := by
  have builds : (Scene.build overlappedEnd .default).isOk = true := by decide +kernel
  have silenced := Scene.build_silent (remarked comment) .default
  cases built : Scene.build (remarked comment) .default with
  | error failure =>
      rw [built] at silenced
      rw [show overlappedEnd = (remarked comment).silent from rfl, silenced] at builds
      contradiction
  | ok scene => exact ofDescription_builtin built "now"

theorem remarked_contained :
    ∃ templates output other,
      (Templates.builtin : Except (Failure ℚ) Templates) = .ok templates ∧
      ofDescription (remarked "wide grooves\n; and deep ones") templates .default "now" =
        .ok output ∧
      ofDescription (remarked "grooves") templates .default "now" = .ok other ∧
      codeLines output.program = codeLines other.program := by
  obtain ⟨output, written⟩ := remarked_written "wide grooves\n; and deep ones"
  obtain ⟨other, rewritten⟩ := remarked_written "grooves"
  have alike : (remarked "wide grooves\n; and deep ones").silent = (remarked "grooves").silent :=
    rfl
  have dated : Contained "now" := by decide
  obtain ⟨-, compared⟩ :=
    comments_spill alike Templates.builtin_accepted written rewritten dated dated
  exact ⟨_, output, other, Templates.builtin_accepted, written, rewritten,
    (compared (by decide)).mpr (by decide)⟩

theorem remarked_spills :
    ∃ templates output other,
      (Templates.builtin : Except (Failure ℚ) Templates) = .ok templates ∧
      (remarked "wide grooves\n(set! resolution 1)").silent = overlappedEnd.silent ∧
      ofDescription (remarked "wide grooves\n(set! resolution 1)") templates .default "now" =
        .ok output ∧
      ofDescription overlappedEnd templates .default "now" = .ok other ∧
      codeLines output.program ≠ codeLines other.program := by
  obtain ⟨output, written⟩ := remarked_written "wide grooves\n(set! resolution 1)"
  obtain ⟨other, rewritten, merged⟩ := ofDescription_interleaved written
  refine ⟨_, output, other, Templates.builtin_accepted, rfl, written, rewritten, fun same => ?_⟩
  have contained := spills_eq_nil_iff.mp (merged.eq_iff.mp same)
  exact absurd contained (by decide)

end Remarked

end Program

end Waveguide
