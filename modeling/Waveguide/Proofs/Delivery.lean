import Mathlib
import Waveguide.Proofs.Arguments
import Waveguide.Proofs.Emission
import Waveguide.Proofs.Replacement
import Waveguide.Proofs.Restoring

/-!
What a run leaves behind. A run that fails leaves the tree of files as it found it and prints nothing;
one that succeeds prints the program or replaces the one file it was asked for, and that file then
holds the whole program. This holds on every disk, whichever steps it refuses, and with any libraries
that read the command line as it is meant.

A run over rounded numbers that would settle its layout for ever ends here with a failure,
`Failure.unsettled`, and has written nothing.
-/

namespace Waveguide

/-- One place, the one the path leads to, holds the text; all others hold what they held before. -/
def FileTree.Replaced (disk : Disk) (tree : FileTree) (path text : String) (after : FileTree) :
    Prop :=
  ∃ place, tree.target? disk path = some place ∧ after.find? place = some (.file text) ∧
    ∀ other, other ≠ place → after.find? other = tree.find? other

theorem FileTree.Writable.replaced {tree : FileTree} {disk : Disk} {path text : String}
    {home place : List String} (writable : tree.Writable disk path text home place) :
    tree.Replaced disk path text (tree.put place text) := by
  have inside := inside_of_target writable.target
  refine ⟨place, writable.target, ?_, fun other elsewhere => ?_⟩
  · rw [find?_put inside, if_pos rfl]
  · rw [find?_put inside, if_neg elsewhere]

namespace CommandLine

/-- Where the program of a run goes: to the path given for it, else to the file that the description
names, beside the description, else to the description's own name with another extension. -/
inductive Destination (request : Arguments) (output : Option OutputSpec) : String → Prop
  | given (path : String) : request.output = some path → Destination request output path
  | named (spec : OutputSpec) (name : String) : request.output = none → output = some spec →
      spec.controlFile = some name →
      Destination request output
        (Path.join ((Path.parent? (request.input.getD "gen.yaml")).getD "") name)
  | derived : request.output = none → (∀ spec, output = some spec → spec.controlFile = none) →
      Destination request output (Path.withExtension (request.input.getD "gen.yaml") "ctl")

theorem destination_iff {request : Arguments} {output : Option OutputSpec} {path : String} :
    Destination request output path ↔
      path = outputPath request (output.bind OutputSpec.controlFile) := by
  unfold outputPath
  constructor
  · rintro (⟨path, given⟩ | ⟨spec, name, given, rfl, named⟩ | ⟨given, unnamed⟩)
    · rw [given]
    · simp only [given, Option.bind_some, named]
      rfl
    · cases output with
      | none => simp only [given, Option.bind_none]; rfl
      | some spec => simp only [given, Option.bind_some, unnamed spec rfl]; rfl
  · rintro rfl
    cases given : request.output with
    | some path => exact .given path given
    | none =>
        cases named : output.bind OutputSpec.controlFile with
        | some name =>
            obtain ⟨spec, rfl, found⟩ := Option.bind_eq_some_iff.mp named
            exact .named spec name given rfl found
        | none => exact .derived given fun spec found => by simpa [found] using named

example : Path.withExtension "runs/gen.yaml" "ctl" = "runs/gen.ctl" ∧
    Path.join ((Path.parent? "runs/gen.yaml").getD "") "slab.ctl" = "runs/slab.ctl" := by
  decide +kernel

namespace Tools

section Sources

variable {K : Type} [Numeral K] (tools : Tools K)

def Describes (disk : Disk) (tree : FileTree) (path : String) (description : Description K) :
    Prop :=
  ∃ text, tree.read? disk path = some text ∧
    ((Path.extension? path = some "json" ∧ ∃ node, tools.json text = some node ∧
        Description.ofDocument? node = some description) ∨
      (Path.extension? path ≠ some "json" ∧ ∃ node, tools.yaml text = some node ∧
        Description.ofDocument? node = some description))

def Supplies (disk : Disk) (tree : FileTree) (resource : Option String) (templates : Templates) :
    Prop :=
  ∃ text, (resource = none ∧ text = Templates.builtinText ∨
      ∃ path, resource = some path ∧ tree.read? disk path = some text) ∧
    (Templates.ofDocument (tools.yaml text) : Except (Failure K) Templates) = .ok templates

/-- What a run translates: the description and the templates as they stand in a tree. -/
structure Translates (disk : Disk) (tree : FileTree) (time : String) (request : Arguments)
    (description : Description K) (output : Program.Output) : Prop where
  described : tools.Describes disk tree (request.input.getD "gen.yaml") description
  translated : ∃ templates, tools.Supplies disk tree request.resource templates ∧
    Program.ofDescription description (templates.renderWith tools.fill)
      { Settings.default with
        inputName := request.input.getD "gen.yaml", structureOnly := request.structureOnly }
      time = .ok output

end Sources

section Runs

variable {K : Type} [Numeral K] {tools : Tools K} {disk : Disk} {tree : FileTree} {time : String}
  {request : Arguments}

theorem describe_ok {path text : String} {description : Description K} :
    tools.describe path text = .ok description ↔
      (Path.extension? path = some "json" ∧ ∃ node, tools.json text = some node ∧
        Description.ofDocument? node = some description) ∨
      (Path.extension? path ≠ some "json" ∧ ∃ node, tools.yaml text = some node ∧
        Description.ofDocument? node = some description) := by
  rw [← Option.bind_eq_some_iff, ← Option.bind_eq_some_iff, describe]
  by_cases json : Path.extension? path = some "json"
  · simp only [json, if_true, true_and, ne_eq, not_true_eq_false, false_and, or_false]
    cases (tools.json text).bind (Description.ofDocument? (K := K)) <;> simp
  · simp only [json, if_false, false_and, ne_eq, not_false_eq_true, true_and, false_or]
    cases (tools.yaml text).bind (Description.ofDocument? (K := K)) <;> simp

theorem Describes.unique {path : String} {first second : Description K}
    (described : tools.Describes disk tree path first)
    (again : tools.Describes disk tree path second) : first = second := by
  obtain ⟨text, read, parsed⟩ := described
  obtain ⟨same, readAgain, parsedAgain⟩ := again
  cases read.symm.trans readAgain
  exact Except.ok.inj ((describe_ok.mpr parsed).symm.trans (describe_ok.mpr parsedAgain))

omit [Numeral K] in
theorem Supplies.unique {resource : Option String} {first second : Templates}
    (supplied : tools.Supplies disk tree resource first)
    (again : tools.Supplies disk tree resource second) : first = second := by
  obtain ⟨text, ⟨rfl, rfl⟩ | ⟨path, rfl, read⟩, parsed⟩ := supplied
  · obtain ⟨same, ⟨-, rfl⟩ | ⟨_, impossible, -⟩, parsedAgain⟩ := again
    · exact Except.ok.inj (parsed.symm.trans parsedAgain)
    · contradiction
  · obtain ⟨same, ⟨impossible, -⟩ | ⟨_, known, readAgain⟩, parsedAgain⟩ := again
    · contradiction
    · cases known
      cases read.symm.trans readAgain
      exact Except.ok.inj (parsed.symm.trans parsedAgain)

theorem Translates.unique {description again : Description K} {output other : Program.Output}
    (translates : tools.Translates disk tree time request description output)
    (otherwise : tools.Translates disk tree time request again other) :
    description = again ∧ output = other := by
  cases translates.described.unique otherwise.described
  obtain ⟨templates, supplied, done⟩ := translates.translated
  obtain ⟨same, suppliedAgain, doneAgain⟩ := otherwise.translated
  cases supplied.unique suppliedAgain
  exact ⟨rfl, Except.ok.inj (done.symm.trans doneAgain)⟩

/-- The action leaves the tree as it is. It answers a value of which `Right` holds, and fails only if
there is none. -/
def Answers {α : Type} (tree : FileTree) (action : StateM FileTree (Except (Failure K) α))
    (Right : α → Prop) : Prop :=
  (∃ failure, action.run tree = (.error failure, tree) ∧ ∀ value, ¬ Right value) ∨
    ∃ value, action.run tree = (.ok value, tree) ∧ Right value

omit [Numeral K] in
theorem Answers.congr {α : Type} {action : StateM FileTree (Except (Failure K) α)}
    {Right Same : α → Prop} (answers : Answers tree action Right)
    (same : ∀ value, Right value ↔ Same value) : Answers tree action Same := by
  rwa [← funext fun value => propext (same value)]

omit [Numeral K] in
theorem answers_read {α : Type} (disk : Disk) (tree : FileTree) (path : String)
    (absent : Failure K) (parse : String → Except (Failure K) α) :
    Answers tree
      (do
        match ← (FileTree.accessOn disk).read path with
        | some text => pure (parse text)
        | none => pure (.error absent))
      fun value => ∃ text, tree.read? disk path = some text ∧ parse text = .ok value := by
  change Answers tree
    (fun _ => (match tree.read? disk path with
      | some text => (pure (parse text) : StateM FileTree _)
      | none => pure (.error absent)).run tree) _
  cases read : tree.read? disk path with
  | none =>
      refine Or.inl ⟨absent, rfl, ?_⟩
      rintro value ⟨text, found, _⟩
      contradiction
  | some text =>
      cases parsed : parse text with
      | error failure =>
          refine Or.inl ⟨failure, congrArg (·, tree) parsed, ?_⟩
          rintro value ⟨same, found, done⟩
          cases found
          rw [parsed] at done
          contradiction
      | ok value => exact Or.inr ⟨value, congrArg (·, tree) parsed, text, rfl, parsed⟩

theorem load_answers (tools : Tools K) (disk : Disk) (tree : FileTree) (path : String) :
    Answers tree (tools.load (FileTree.accessOn disk) path) (tools.Describes disk tree path) :=
  (answers_read disk tree path .file (tools.describe path)).congr fun _ =>
    exists_congr fun _ => and_congr_right fun _ => describe_ok

omit [Numeral K] in
theorem templatesFor_answers (tools : Tools K) (disk : Disk) (tree : FileTree)
    (resource : Option String) :
    Answers tree (tools.templatesFor (FileTree.accessOn disk) resource)
      (tools.Supplies disk tree resource) := by
  cases resource with
  | some path =>
      refine (answers_read disk tree path (.resource .unreadable) fun text =>
        Templates.ofDocument (tools.yaml text)).congr fun templates => ?_
      simp [Supplies]
  | none =>
      cases builtin : (Templates.ofDocument (tools.yaml Templates.builtinText) :
          Except (Failure K) Templates) with
      | error failure =>
          refine Or.inl ⟨failure, congrArg (·, tree) builtin, ?_⟩
          rintro templates ⟨_, ⟨-, rfl⟩ | ⟨_, impossible, -⟩, parsed⟩
          · exact nomatch builtin.symm.trans parsed
          · contradiction
      | ok templates =>
          exact Or.inr ⟨templates, congrArg (·, tree) builtin, _, .inl ⟨rfl, rfl⟩, builtin⟩

omit [Numeral K] in
theorem run_bind_of {α β : Type} {action : StateM FileTree α} {value : α} {after : FileTree}
    (done : action.run tree = (value, after)) (next : α → StateM FileTree β) :
    (action >>= next).run tree = (next value).run after := by
  rw [StateT.run_bind, done]
  rfl

/-- A run either has nothing to translate, and fails without touching the tree, or delivers the
translation. -/
theorem run_cases (tools : Tools K) (disk : Disk) (tree : FileTree) (time : String)
    (request : Arguments) :
    (∃ outcome, (tools.run (FileTree.accessOn disk) time request).run tree = (outcome, tree) ∧
        outcome.exit ≠ 0 ∧ outcome.stdout = "" ∧
        ∀ description output, ¬ tools.Translates disk tree time request description output) ∨
      ∃ description output, tools.Translates disk tree time request description output ∧
        (tools.run (FileTree.accessOn disk) time request).run tree =
          (deliver (K := K) (FileTree.accessOn disk) request output).run tree := by
  simp only [run]
  rcases load_answers tools disk tree request.inputPath with
    ⟨failure, loaded, nothing⟩ | ⟨description, loaded, described⟩
  · rw [run_bind_of loaded]
    refine Or.inl ⟨_, rfl, Nat.one_ne_zero, rfl, ?_⟩
    exact fun description output translates => nothing description translates.described
  rw [run_bind_of loaded]
  rcases templatesFor_answers tools disk tree request.resource with
    ⟨failure, supplied, nothing⟩ | ⟨templates, supplied, supplies⟩
  · rw [run_bind_of supplied]
    refine Or.inl ⟨_, rfl, Nat.one_ne_zero, rfl, ?_⟩
    rintro _ output ⟨_, templates, supplies, _⟩
    exact nothing templates supplies
  rw [run_bind_of supplied]
  dsimp only
  cases done : Program.ofDescription description (templates.renderWith tools.fill)
      (settingsFor request) time with
  | error failure =>
      refine Or.inl ⟨_, rfl, Nat.one_ne_zero, rfl, ?_⟩
      rintro again output ⟨describedAgain, other, suppliesAgain, translated⟩
      cases described.unique describedAgain
      cases supplies.unique suppliesAgain
      exact nomatch done.symm.trans translated
  | ok output => exact Or.inr ⟨description, output, ⟨described, templates, supplies, done⟩, rfl⟩

theorem deliver_printed (disk : Disk) (tree : FileTree) (output : Program.Output)
    (asked : request.stdout = true) :
    ∃ warnings, (deliver (K := K) (FileTree.accessOn disk) request output).run tree =
      (⟨0, output.program, warnings⟩, tree) := by
  refine ⟨output.diagnostics.warnings.map warningLine, ?_⟩
  simp only [deliver, asked, if_true]
  rfl

theorem replace_run (disk : Disk) (tree : FileTree) (path text : String) :
    ((FileTree.accessOn disk).replace path text).run tree =
      ((FileTree.replaceOn disk tree path text).2, (FileTree.replaceOn disk tree path text).1) :=
  rfl

theorem deliver_written (disk : Disk) (tree : FileTree) (output : Program.Output)
    (asked : request.stdout = false) :
    let path := outputPath request output.controlFile
    ∃ outcome after, (deliver (K := K) (FileTree.accessOn disk) request output).run tree =
        (outcome, after) ∧ outcome.stdout = "" ∧
      ((outcome.exit = 0 ∧ (∃ home place, tree.Writable disk path output.program home place) ∧
          tree.Replaced disk path output.program after) ∨
        (outcome.exit ≠ 0 ∧ (∀ home place, ¬ tree.Writable disk path output.program home place) ∧
          after = tree)) := by
  intro path
  simp only [deliver, asked, Bool.false_eq_true, if_false]
  rw [run_bind_of (replace_run disk tree _ _)]
  rcases FileTree.replaceOn_cases disk tree path output.program with
    ⟨home, place, writable⟩ | ⟨unable, kept⟩
  · rw [writable.replaceOn, if_pos rfl]
    exact ⟨_, _, rfl, rfl, .inl ⟨rfl, ⟨home, place, writable⟩, writable.replaced⟩⟩
  · rw [kept, if_neg Bool.false_ne_true]
    exact ⟨_, _, rfl, rfl, .inr ⟨Nat.one_ne_zero, unable, rfl⟩⟩

theorem controlFile_ofDescription {description : Description K} {renderer : Renderer K}
    {settings : Settings K} {output : Program.Output}
    (done : Program.ofDescription description renderer settings time = .ok output) :
    output.controlFile = description.output.bind OutputSpec.controlFile := by
  simp only [Program.ofDescription, bind_eq_ok, Except.ok.injEq] at done
  obtain ⟨scene, _, program, _, rfl⟩ := done
  rfl

theorem Translates.destination {description : Description K} {output : Program.Output}
    (translates : tools.Translates disk tree time request description output) {path : String} :
    Destination request description.output path ↔ path = outputPath request output.controlFile := by
  obtain ⟨templates, _, made⟩ := translates.translated
  rw [destination_iff, controlFile_ofDescription made]

/-- What a run that succeeds has done: printed the program and left the tree alone, or printed
nothing and put the program where it goes. -/
def Delivered (tools : Tools K) (disk : Disk) (tree : FileTree) (time : String)
    (request : Arguments) (outcome : Outcome) (after : FileTree) : Prop :=
  ∃ description output, tools.Translates disk tree time request description output ∧
    (request.stdout = true → after = tree ∧ outcome.stdout = output.program) ∧
    (request.stdout = false → outcome.stdout = "" ∧
      ∃ path, Destination request description.output path ∧
        tree.Replaced disk path output.program after)

def Deliverable (tools : Tools K) (disk : Disk) (tree : FileTree) (time : String)
    (request : Arguments) : Prop :=
  ∃ description output, tools.Translates disk tree time request description output ∧
    (request.stdout = true ∨ ∃ path home place, Destination request description.output path ∧
      tree.Writable disk path output.program home place)

theorem run_delivers (tools : Tools K) (disk : Disk) (tree : FileTree) (time : String)
    (request : Arguments) :
    ∃ outcome after,
      (tools.run (FileTree.accessOn disk) time request).run tree = (outcome, after) ∧
      (outcome.exit ≠ 0 → after = tree ∧ outcome.stdout = "") ∧
      (outcome.exit = 0 ↔ tools.Deliverable disk tree time request) ∧
      (outcome.exit = 0 → tools.Delivered disk tree time request outcome after) := by
  rcases run_cases tools disk tree time request with
    ⟨outcome, ran, failed, silent, nothing⟩ | ⟨description, output, translates, ran⟩
  · refine ⟨outcome, tree, ran, fun _ => ⟨rfl, silent⟩, iff_of_false failed ?_,
      fun done => absurd done failed⟩
    exact fun ⟨description, output, translates, _⟩ => nothing description output translates
  cases asked : request.stdout with
  | true =>
      obtain ⟨warnings, printed⟩ := deliver_printed (K := K) disk tree output asked
      refine ⟨_, tree, ran.trans printed, fun failed => absurd rfl failed,
        iff_of_true rfl ⟨description, output, translates, .inl asked⟩, fun _ => ?_⟩
      exact ⟨description, output, translates, fun _ => ⟨rfl, rfl⟩,
        fun other => nomatch asked.symm.trans other⟩
  | false =>
      obtain ⟨outcome, after, written, silent, ⟨done, ⟨home, place, writable⟩, replaced⟩ |
        ⟨failed, unable, rfl⟩⟩ := deliver_written (K := K) disk tree output asked
      · have goes := translates.destination.mpr rfl
        refine ⟨outcome, after, ran.trans written, fun failed => absurd done failed,
          iff_of_true done ⟨description, output, translates, .inr ⟨_, home, place, goes, writable⟩⟩,
          fun _ => ⟨description, output, translates,
            fun other => (nomatch asked.symm.trans other), fun _ => ⟨silent, _, goes, replaced⟩⟩⟩
      · refine ⟨outcome, after, ran.trans written, fun _ => ⟨rfl, silent⟩,
          iff_of_false failed ?_, fun done => absurd done failed⟩
        rintro ⟨again, other, otherwise, printed | ⟨path, home, place, goes, writable⟩⟩
        · exact nomatch asked.symm.trans printed
        · obtain ⟨rfl, rfl⟩ := translates.unique otherwise
          obtain rfl := translates.destination.mp goes
          exact unable home place writable

structure Concludes (tools : Tools K) (disk : Disk) (tree : FileTree) (time : String)
    (line : List String) (result : Outcome × FileTree) : Prop where
  failed : result.1.exit ≠ 0 → result.2 = tree ∧ result.1.stdout = ""
  succeeds : ∀ request, Spells line request →
    (result.1.exit = 0 ↔ tools.Deliverable disk tree time request)
  delivers : ∀ request, Spells line request → result.1.exit = 0 →
    tools.Delivered disk tree time request result.1 result.2
  help : Asks .help line →
    result.1.exit = 0 ∧ result.2 = tree ∧ result.1.stdout = tools.help
  version : Asks .version line →
    result.1.exit = 0 ∧ result.2 = tree ∧ result.1.stdout = tools.version
  misuse : (∀ request, ¬ Spells line request) → ¬ Asks .help line → ¬ Asks .version line →
    result.1.exit ≠ 0

theorem Concludes.of_unread {line : List String} {outcome : Outcome}
    (unread : ∀ request, ¬ Spells line request)
    (failed : outcome.exit ≠ 0 → outcome.stdout = "")
    (help : Asks .help line → outcome.exit = 0 ∧ outcome.stdout = tools.help)
    (version : Asks .version line → outcome.exit = 0 ∧ outcome.stdout = tools.version)
    (misuse : ¬ Asks .help line → ¬ Asks .version line → outcome.exit ≠ 0) :
    tools.Concludes disk tree time line (outcome, tree) where
  failed wrong := ⟨rfl, failed wrong⟩
  succeeds request spells := absurd spells (unread request)
  delivers request spells := absurd spells (unread request)
  help asks := ⟨(help asks).1, rfl, (help asks).2⟩
  version asks := ⟨(version asks).1, rfl, (version asks).2⟩
  misuse _ := misuse

theorem execute_concludes (understands : Understands tools.request) (disk : Disk) (tree : FileTree)
    (time : String) (line : List String) :
    tools.Concludes disk tree time line
      ((tools.execute (FileTree.accessOn disk) time line).run tree) := by
  have run := understands.run line
  have help := understands.help line
  have version := understands.version line
  unfold execute
  cases asked : tools.request line with
  | run request =>
      rw [asked] at run help version
      have only : ∀ other, Spells line other → other = request := fun other spells =>
        Request.run.inj ((run other).mpr spells).symm
      obtain ⟨outcome, after, ran, failed, succeeds, delivers⟩ :=
        run_delivers tools disk tree time request
      dsimp only
      rw [ran]
      exact {
        failed
        succeeds := fun other spells => only other spells ▸ succeeds
        delivers := fun other spells => only other spells ▸ delivers
        help := fun asks => nomatch help.mpr asks
        version := fun asks => nomatch version.mpr asks
        misuse := fun nothing => absurd ((run request).mp rfl) (nothing request) }
  | help =>
      rw [asked] at run help version
      exact .of_unread (fun other spells => nomatch (run other).mpr spells)
        (fun failed => absurd rfl failed) (fun _ => ⟨rfl, rfl⟩)
        (fun asks => nomatch version.mpr asks) fun nothing => absurd (help.mp rfl) nothing
  | version =>
      rw [asked] at run help version
      exact .of_unread (fun other spells => nomatch (run other).mpr spells)
        (fun failed => absurd rfl failed) (fun asks => nomatch help.mpr asks)
        (fun _ => ⟨rfl, rfl⟩) fun _ nothing => absurd (version.mp rfl) nothing
  | misuse =>
      rw [asked] at run help version
      exact .of_unread (fun other spells => nomatch (run other).mpr spells) (fun _ => rfl)
        (fun asks => nomatch help.mpr asks) (fun asks => nomatch version.mpr asks)
        fun _ _ => Nat.succ_ne_zero 1

end Runs

end Tools

/-- A run is all or nothing, whatever it is asked for and whichever steps the disk refuses, and so is
the replacement of any one file. Of the libraries, only the reader of the arguments must keep to what
is expected of it, as the one here does. -/
theorem execute_all_or_nothing {K : Type} [Numeral K] :
    Understands (Tools.own : Tools K).request ∧
    ∀ tools : Tools K, Understands tools.request →
      ∀ (disk : Disk) (tree : FileTree),
        (∀ time line, tools.Concludes disk tree time line
          ((tools.execute (FileTree.accessOn disk) time line).run tree)) ∧
        ∀ path text,
          (∃ after, FileTree.replaceOn disk tree path text = (after, true) ∧
              tree.Replaced disk path text after ∧
              ∃ home place, tree.Writable disk path text home place) ∨
            (FileTree.replaceOn disk tree path text = (tree, false) ∧
              ∀ home place, ¬ tree.Writable disk path text home place) := by
  refine ⟨parse_understands, fun tools understands disk tree =>
    ⟨Tools.execute_concludes understands disk tree, fun path text => ?_⟩⟩
  rcases FileTree.replaceOn_cases disk tree path text with
    ⟨home, place, writable⟩ | ⟨unable, kept⟩
  · exact .inl ⟨_, writable.replaceOn, writable.replaced, home, place, writable⟩
  · exact .inr ⟨kept, unable⟩

section Slab

def slabFiles (text : String) : FileTree :=
  ⟨[(["runs"], .directory), (["runs", "slab.json"], .file text),
    (["runs", "slab.ctl"], .file "; earlier\n")]⟩

def slabText : String := (Scene.overlappedEnd.toJson Exact.fullForm).render

theorem slabFiles_locate (text : String) {path : String} {names : List String}
    (start : Disk.plain.start? path = some []) (parts : FileTree.names path = names) :
    (slabFiles text).locate .plain path = names.foldlM ((slabFiles text).enter .plain) [] := by
  rw [FileTree.locate, start, parts]
  rfl

theorem slabFiles_read (text : String) :
    (slabFiles text).read? .plain "runs/slab.json" = some text := by
  have parts : FileTree.names "runs/slab.json" = ["runs", "slab.json"] := by decide +kernel
  rw [FileTree.read?, slabFiles_locate text (by decide +kernel) parts]
  rfl

theorem slabFiles_target (text : String) :
    (slabFiles text).target? .plain "runs/slab.ctl" = some ["runs", "slab.ctl"] := by
  have parts : FileTree.names "runs/slab.ctl" = ["runs", "slab.ctl"] := by decide +kernel
  rw [FileTree.target?, slabFiles_locate text (by decide +kernel) parts, parts]
  rfl

theorem slabFiles_writable (text program : String) :
    (slabFiles text).Writable .plain "runs/slab.ctl" program ["runs"] ["runs", "slab.ctl"] := by
  refine FileTree.writable_of_target ?_ rfl (slabFiles_target text) program
  have home : Path.home "runs/slab.ctl" = "runs" := by decide +kernel
  have parts : FileTree.names "runs" = ["runs"] := by decide +kernel
  rw [home, slabFiles_locate text (by decide +kernel) parts]
  rfl

theorem slab_translates : ∃ (description : Description ℚ) (output : Program.Output),
    description.output = none ∧ ∀ stdout, (Tools.own : Tools ℚ).Translates .plain
      (slabFiles slabText) "now" ⟨some "runs/slab.json", none, none, false, stdout⟩ description
      output := by
  let settings : Settings ℚ :=
    { Settings.default with inputName := "runs/slab.json", structureOnly := false }
  have builds : ((Description.ofDocument? (Scene.overlappedEnd.toJson Exact.fullForm)).bind
      fun description => if description.output.isSome then none
        else (Scene.build description settings).toOption).isSome = true := by
    decide +kernel
  obtain ⟨scene, built⟩ := Option.isSome_iff_exists.mp builds
  obtain ⟨description, described, built⟩ := Option.bind_eq_some_iff.mp built
  obtain ⟨unnamed, built⟩ : description.output = none ∧
      Scene.build description settings = .ok scene := by
    cases named : description.output with
    | some spec => simp [named] at built
    | none =>
        simp only [named, Option.isSome_none, Bool.false_eq_true, if_false] at built
        cases outcome : Scene.build description settings with
        | error failure => simp [outcome, Except.toOption] at built
        | ok made => simpa [outcome, Except.toOption] using built
  obtain ⟨output, written⟩ := Program.ofDescription_builtin built "now"
  have json : Path.extension? "runs/slab.json" = some "json" := by decide +kernel
  have read : Json.parse? slabText = some (Scene.overlappedEnd.toJson Exact.fullForm) :=
    Json.parse?_render _
  have builtin : (Templates.ofDocument ((Tools.own : Tools ℚ).yaml Templates.builtinText) :
      Except (Failure ℚ) Templates) = .ok Templates.builtinTemplates := by
    simp only [Tools.own]
    rw [← Templates.ofYaml, ← Templates.builtin, Templates.builtin_accepted]
  have supplied : (Tools.own : Tools ℚ).Supplies .plain (slabFiles slabText) none
      Templates.builtinTemplates := ⟨_, .inl ⟨rfl, rfl⟩, builtin⟩
  have described : (Tools.own : Tools ℚ).Describes .plain (slabFiles slabText) "runs/slab.json"
      description := ⟨slabText, slabFiles_read slabText, .inl ⟨json, _, read, described⟩⟩
  exact ⟨description, output, unnamed, fun _ => ⟨described, _, supplied, written⟩⟩

theorem slab_delivered :
    let printed := ((Tools.own : Tools ℚ).execute (FileTree.accessOn .plain) "now"
      ["-vi=runs/slab.json", "--stdout"]).run (slabFiles slabText)
    let written := ((Tools.own : Tools ℚ).execute (FileTree.accessOn .plain) "now"
      ["--input=runs/slab.json"]).run (slabFiles slabText)
    ∃ (description : Description ℚ) (output : Program.Output),
      (Tools.own : Tools ℚ).Translates .plain (slabFiles slabText) "now"
        ⟨some "runs/slab.json", none, none, false, false⟩ description output ∧
      printed.1.exit = 0 ∧ printed.1.stdout = output.program ∧ printed.2 = slabFiles slabText ∧
      written.1.exit = 0 ∧ written.1.stdout = "" ∧
      written.2.find? ["runs", "slab.ctl"] = some (.file output.program) ∧
      ∀ other, other ≠ ["runs", "slab.ctl"] →
        written.2.find? other = (slabFiles slabText).find? other := by
  obtain ⟨description, output, unnamed, translates⟩ := slab_translates
  obtain ⟨understands, delivers⟩ := execute_all_or_nothing (K := ℚ)
  have ends := (delivers Tools.own understands .plain (slabFiles slabText)).1 "now"
  have printing : Spells ["-vi=runs/slab.json", "--stdout"]
      ⟨some "runs/slab.json", none, none, false, true⟩ := (understands.run _ _).mp (by rfl)
  have writing : Spells ["--input=runs/slab.json"]
      ⟨some "runs/slab.json", none, none, false, false⟩ := (understands.run _ _).mp (by rfl)
  have goes : Destination ⟨some "runs/slab.json", none, none, false, false⟩ description.output
      "runs/slab.ctl" := by
    have renamed : Path.withExtension "runs/slab.json" "ctl" = "runs/slab.ctl" := by decide +kernel
    exact renamed ▸ .derived rfl (by simp [unnamed])
  have printed := ((ends _).succeeds _ printing).mpr
    ⟨description, output, translates true, .inl rfl⟩
  have written := ((ends _).succeeds _ writing).mpr
    ⟨description, output, translates false,
      .inr ⟨_, _, _, goes, slabFiles_writable slabText output.program⟩⟩
  obtain ⟨_, _, shown, prints, -⟩ := (ends _).delivers _ printing printed
  obtain ⟨rfl, rfl⟩ := shown.unique (translates true)
  obtain ⟨again, other, put, -, replaces⟩ := (ends _).delivers _ writing written
  obtain ⟨rfl, rfl⟩ := put.unique (translates false)
  obtain ⟨kept, program⟩ := prints rfl
  obtain ⟨silent, path, leads, place, target, holds, others⟩ := replaces rfl
  obtain rfl := (destination_iff.mp leads).trans (destination_iff.mp goes).symm
  obtain rfl := Option.some.inj (target.symm.trans (slabFiles_target slabText))
  exact ⟨_, _, translates false, printed, program, kept, written, silent, holds, others⟩

end Slab

end CommandLine

end Waveguide
