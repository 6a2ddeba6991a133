import Mathlib
import Waveguide.CommandLine
import Waveguide.Proofs.Points

/-!
What the arguments of the command line say. They give a list of items, which are flags and paths of
options. A word stands after two dashes and letters stand after one; the path of an option is joined
to it, with an equals sign or to its letter also without, or is the next argument.

Reading them makes a request exactly if they spell it, each path and each flag at most once.
-/

namespace Waveguide.CommandLine

def PathOption.word : PathOption → String
  | .input => "input"
  | .resource => "resource"
  | .output => "output"

def PathOption.letter : PathOption → Char
  | .input => 'i'
  | .resource => 'r'
  | .output => 'o'

def Flag.word : Flag → String
  | .structureOnly => "structure-only"
  | .stdout => "stdout"
  | .verbose => "verbose"
  | .help => "help"
  | .version => "version"

/-- Two flags have a word only. -/
def Flag.letter? : Flag → Option Char
  | .structureOnly | .stdout => none
  | .verbose => some 'v'
  | .help => some 'h'
  | .version => some 'V'

inductive Item where
  | flag (flag : Flag)
  | path (option : PathOption) (path : String)
  deriving DecidableEq

def Lettered (flags : List Flag) (letters : List Char) : Prop :=
  flags.map Flag.letter? = letters.map some

/-- What stands after the letters of flags: nothing, or the letter of an option and perhaps its
path. -/
inductive Ends : List Char → Option (PathOption × Option String) → Prop
  | nothing : Ends [] none
  | letter (option : PathOption) : Ends [option.letter] (some (option, none))
  | path (option : PathOption) (path : String) : path ≠ "" → path.toList.head? ≠ some '=' →
      Ends (option.letter :: path.toList) (some (option, some path))
  | equals (option : PathOption) (path : String) :
      Ends (option.letter :: '=' :: path.toList) (some (option, some path))

/-- What one argument says: some flags, and after them perhaps an option, with or without its
path. -/
inductive Speaks : String → List Flag → Option (PathOption × Option String) → Prop
  | flag (flag : Flag) : Speaks ("--" ++ flag.word) [flag] none
  | word (option : PathOption) : Speaks ("--" ++ option.word) [] (some (option, none))
  | equals (option : PathOption) (path : String) :
      Speaks ("--" ++ option.word ++ "=" ++ path) [] (some (option, some path))
  | letters {flags : List Flag} {letters rest : List Char}
      {last : Option (PathOption × Option String)} : Lettered flags letters → Ends rest last →
      letters ++ rest ≠ [] → Speaks ("-" ++ String.ofList (letters ++ rest)) flags last

/-- A path that is an argument of its own does not start with a dash, or is one. -/
def StandsAlone (path : String) : Prop := path.toList.head? = some '-' → path = "-"

inductive Says : List String → List Item → Prop
  | nothing : Says [] []
  | flags {argument : String} {flags : List Flag} {line : List String} {items : List Item} :
      Speaks argument flags none → Says line items →
      Says (argument :: line) (flags.map .flag ++ items)
  | joined {argument path : String} {flags : List Flag} {option : PathOption} {line : List String}
      {items : List Item} : Speaks argument flags (some (option, some path)) → Says line items →
      Says (argument :: line) (flags.map .flag ++ .path option path :: items)
  | apart {argument path : String} {flags : List Flag} {option : PathOption} {line : List String}
      {items : List Item} : Speaks argument flags (some (option, none)) → StandsAlone path →
      Says line items →
      Says (argument :: path :: line) (flags.map .flag ++ .path option path :: items)

def Item.path? (wanted : PathOption) : Item → Option String
  | .path option given => if option = wanted then some given else none
  | .flag _ => none

/-- What items make of the arguments before them. A path is given at most once and is not empty, a
flag other than `verbose` is raised at most once, and `help` and `version` not at all. -/
structure Makes (before : Arguments) (items : List Item) (request : Arguments) : Prop where
  paths : ∀ option, (request.path? option).toList =
    (before.path? option).toList ++ items.filterMap (Item.path? option)
  flags : ∀ flag, flag ≠ .verbose →
    (request.raised flag).toNat = (before.raised flag).toNat + items.count (.flag flag)
  named : ∀ option, .path option "" ∉ items

/-- Two dashes may stand after all other arguments. -/
def Spells (line : List String) (request : Arguments) : Prop :=
  ∃ front items, (line = front ∨ line = front ++ ["--"]) ∧ Says front items ∧
    Makes .none items request

/-- An argument in which a flag is met after others, whatever else follows. -/
inductive Meets : String → List Flag → Flag → Prop
  | word (flag : Flag) : Meets ("--" ++ flag.word) [] flag
  | letter {flags : List Flag} {letters : List Char} {flag : Flag} {letter : Char}
      (rest : List Char) : Lettered flags letters → flag.letter? = some letter →
      Meets ("-" ++ String.ofList (letters ++ letter :: rest)) flags flag

/-- The flag is met after what alone would make a request. -/
def Asks (flag : Flag) (line : List String) : Prop :=
  ∃ front argument others items flags request, line = front ++ argument :: others ∧
    Says front items ∧ Meets argument flags flag ∧
    Makes .none (items ++ flags.map .flag) request

/-- What is expected of a reader of the command line. -/
structure Understands (read : List String → Request) : Prop where
  run : ∀ line request, read line = .run request ↔ Spells line request
  help : ∀ line, read line = .help ↔ Asks .help line
  version : ∀ line, read line = .version ↔ Asks .version line

section Items

def Arguments.take (arguments : Arguments) : Item → Except Request Arguments
  | .flag flag => arguments.raise flag
  | .path option path =>
      match arguments.set? option path with
      | some arguments => .ok arguments
      | .none => .error .misuse

theorem Arguments.ext_of {first second : Arguments}
    (paths : ∀ option, first.path? option = second.path? option)
    (flags : ∀ flag, first.raised flag = second.raised flag) : first = second := by
  obtain ⟨_, _, _, _, _⟩ := first
  obtain ⟨_, _, _, _, _⟩ := second
  simpa using ⟨paths .input, paths .resource, paths .output, flags .structureOnly, flags .stdout⟩

theorem Arguments.path?_withPath (before : Arguments) (option other : PathOption) (path : String) :
    (before.withPath option path).path? other =
      if option = other then some path else before.path? other := by
  cases option <;> cases other <;> rfl

theorem Arguments.raised_withPath (before : Arguments) (option : PathOption) (path : String)
    (flag : Flag) : (before.withPath option path).raised flag = before.raised flag := by
  cases option <;> cases flag <;> rfl

theorem Arguments.take_path {before after : Arguments} {option : PathOption} {path : String} :
    before.take (.path option path) = .ok after ↔
      path ≠ "" ∧ before.path? option = .none ∧ before.withPath option path = after := by
  simp only [take, set?]
  by_cases empty : path = ""
  · simp [empty]
  · cases given : before.path? option <;> simp [empty]

theorem Arguments.toList_withPath {before : Arguments} {option : PathOption}
    (free : before.path? option = .none) (path : String) (items : List Item) (other : PathOption) :
    ((before.withPath option path).path? other).toList ++ items.filterMap (Item.path? other) =
      (before.path? other).toList ++
        (Item.path option path :: items).filterMap (Item.path? other) := by
  rw [path?_withPath]
  by_cases same : option = other
  · subst same
    simp [free, Item.path?]
  · simp [same, Item.path?]

theorem Arguments.path?_withFlag (before : Arguments) (flag : Flag) (option : PathOption) :
    (before.withFlag flag).path? option = before.path? option := by
  cases flag <;> cases option <;> rfl

theorem Arguments.raise_ok {before after : Arguments} {flag : Flag} :
    before.raise flag = .ok after ↔
      flag ≠ .help ∧ flag ≠ .version ∧ before.raised flag = false ∧
        before.withFlag flag = after := by
  have checked (flag : Flag) : (if before.raised flag then .error .misuse
      else .ok (before.withFlag flag) : Except Request Arguments) = .ok after ↔
        before.raised flag = false ∧ before.withFlag flag = after := by
    cases before.raised flag <;> simp
  cases flag <;> simp [raise, checked]

theorem Arguments.toNat_withFlag {before : Arguments} {flag other : Flag}
    (lowered : before.raised flag = false) (notHelp : flag ≠ .help) (notVersion : flag ≠ .version)
    (counted : other ≠ .verbose) (items : List Item) :
    ((before.withFlag flag).raised other).toNat + items.count (.flag other) =
      (before.raised other).toNat + (Item.flag flag :: items).count (.flag other) := by
  cases flag <;> cases other <;> simp_all [raised, withFlag] <;> omega

theorem makes_nil {before request : Arguments} : Makes before [] request ↔ before = request := by
  constructor
  · rintro ⟨paths, flags, -⟩
    refine Arguments.ext_of (fun option => ?_) fun flag => ?_
    · have same := paths option
      cases first : before.path? option <;> cases second : request.path? option <;>
        simp_all
    · by_cases verbose : flag = .verbose
      · rw [verbose]
        rfl
      · have same := flags flag verbose
        cases first : before.raised flag <;> cases second : request.raised flag <;> simp_all
  · rintro rfl
    exact ⟨by simp, by simp, by simp⟩

theorem makes_path {before request : Arguments} {option : PathOption} {path : String}
    {items : List Item} :
    Makes before (.path option path :: items) request ↔
      path ≠ "" ∧ before.path? option = .none ∧
        Makes (before.withPath option path) items request := by
  constructor
  · rintro ⟨paths, flags, named⟩
    have free : before.path? option = .none := by
      have given := congrArg List.length (paths option)
      rw [List.filterMap_cons, Item.path?, if_pos rfl] at given
      rcases taken : before.path? option with _ | first
      · rfl
      · rcases final : request.path? option with _ | last <;> simp [taken, final] at given
    refine ⟨fun empty => named option (by simp [empty]), free, fun other => ?_, fun flag other => ?_,
      fun other member => named other (List.mem_cons_of_mem _ member)⟩
    · rw [Arguments.toList_withPath free, paths]
    · simpa [Arguments.raised_withPath] using flags flag other
  · rintro ⟨nonempty, free, paths, flags, named⟩
    refine ⟨fun other => ?_, fun flag other => ?_, ?_⟩
    · rw [paths, Arguments.toList_withPath free]
    · simpa [Arguments.raised_withPath] using flags flag other
    · simp [nonempty.symm, named]

theorem makes_flag {before request : Arguments} {flag : Flag} {items : List Item} :
    Makes before (.flag flag :: items) request ↔
      flag ≠ .help ∧ flag ≠ .version ∧ before.raised flag = false ∧
        Makes (before.withFlag flag) items request := by
  constructor
  · rintro ⟨paths, flags, named⟩
    have once (counted : flag ≠ .verbose) :
        request.raised flag = true ∧ before.raised flag = false := by
      have given := flags flag counted
      rw [List.count_cons_self] at given
      cases final : request.raised flag <;> cases first : before.raised flag <;>
        simp [final, first] at given ⊢
    have lowered : before.raised flag = false ∧ flag ≠ .help ∧ flag ≠ .version := by
      cases flag with
      | verbose => simp [Arguments.raised]
      | structureOnly | stdout => exact ⟨(once (by simp)).2, by simp⟩
      | help | version => exact absurd (once (by simp)).1 Bool.false_ne_true
    obtain ⟨lowered, notHelp, notVersion⟩ := lowered
    refine ⟨notHelp, notVersion, lowered, fun option => ?_, fun other counted => ?_, ?_⟩
    · rw [paths, Arguments.path?_withFlag]
      rfl
    · rw [flags other counted, Arguments.toNat_withFlag lowered notHelp notVersion counted]
    · simpa using named
  · rintro ⟨notHelp, notVersion, lowered, paths, flags, named⟩
    refine ⟨fun option => ?_, fun other counted => ?_, ?_⟩
    · rw [paths, Arguments.path?_withFlag]
      rfl
    · rw [flags other counted, Arguments.toNat_withFlag lowered notHelp notVersion counted]
    · simpa using named

theorem take_iff {items : List Item} {before request : Arguments} :
    items.foldlM Arguments.take before = .ok request ↔ Makes before items request := by
  induction items generalizing before with
  | nil => simp [pure, Except.pure, makes_nil]
  | cons item items ih =>
      rw [List.foldlM_cons, bind_eq_ok]
      cases item with
      | flag flag =>
          rw [makes_flag]
          simp only [ih, Arguments.take, Arguments.raise_ok, and_assoc]
          simp
      | path option path =>
          rw [makes_path]
          simp only [ih, Arguments.take_path, and_assoc]
          simp

end Items

section Switches

theorem letter?_flag {c : Char} {flag : Flag} :
    letter? c = some (.flag flag) ↔ flag.letter? = some c := by
  constructor
  · intro known
    unfold letter? at known
    split at known <;> simp_all [Flag.letter?] <;> subst known <;> rfl
  · intro known
    cases flag <;> simp_all [Flag.letter?] <;> subst known <;> rfl

theorem letter?_path {c : Char} {option : PathOption} :
    letter? c = some (.path option) ↔ c = option.letter := by
  constructor
  · intro known
    unfold letter? at known
    split at known <;> simp_all <;> subst known <;> rfl
  · rintro rfl
    cases option <;> rfl

theorem word?_flag {name : String} {flag : Flag} :
    word? name = some (.flag flag) ↔ name = flag.word := by
  constructor
  · intro known
    unfold word? at known
    split at known <;> simp_all <;> subst known <;> rfl
  · rintro rfl
    cases flag <;> rfl

theorem word?_path {name : String} {option : PathOption} :
    word? name = some (.path option) ↔ name = option.word := by
  constructor
  · intro known
    unfold word? at known
    split at known <;> simp_all <;> subst known <;> rfl
  · rintro rfl
    cases option <;> rfl

def Flag.request? : Flag → Option Request
  | .help => some .help
  | .version => some .version
  | .structureOnly | .stdout | .verbose => none

theorem Flag.request?_ne_misuse (flag : Flag) : flag.request? ≠ some .misuse := by
  cases flag <;> simp [request?]

theorem Flag.request?_inj {first second : Flag} {request : Request}
    (serves : first.request? = some request) (again : second.request? = some request) :
    first = second := by
  cases first <;> cases second <;> grind [request?]

theorem Arguments.raise_cases (before : Arguments) (flag : Flag) :
    before.raise flag = .error .misuse ∨
      (∃ request, flag.request? = some request ∧ before.raise flag = .error request) ∨
      ∃ after, before.raise flag = .ok after := by
  cases raised : before.raised flag <;> cases flag <;> simp [raise, Flag.request?, raised]

theorem lettered_cons {flag : Flag} {flags : List Flag} {c : Char} {letters : List Char} :
    Lettered (flag :: flags) (c :: letters) ↔ flag.letter? = some c ∧ Lettered flags letters := by
  simp [Lettered]

theorem letters_flags {flags : List Flag} {front : List Char} (lettered : Lettered flags front)
    (rest : List Char) (before : Arguments) :
    letters before (front ++ rest) =
      flags.foldlM Arguments.raise before >>= fun after => letters after rest := by
  induction flags generalizing front before with
  | nil =>
      obtain rfl : front = [] := by simpa [Lettered] using lettered.symm
      rfl
  | cons flag flags ih =>
      cases front with
      | nil => simp [Lettered] at lettered
      | cons c front =>
          obtain ⟨here, later⟩ := lettered_cons.mp lettered
          simp only [List.cons_append, letters, letter?_flag.mpr here, List.foldlM_cons, ih later,
            bind_assoc]

theorem letters_ends {rest : List Char} {last : Option (PathOption × Option String)}
    (ends : Ends rest last) (before : Arguments) : letters before rest = .ok (before, last) := by
  cases ends with
  | nothing => rfl
  | letter option => simp [letters, letter?_path.mpr rfl]
  | path option path named unequal =>
      have kept : dropEquals path.toList = path.toList := by
        unfold dropEquals
        split
        · rename_i equals
          simp [equals] at unequal
        · rfl
      simp [letters, letter?_path.mpr rfl, kept, named]
  | equals option path => simp [letters, letter?_path.mpr rfl, dropEquals]

theorem ends_of_path (option : PathOption) (rest : List Char) :
    Ends (option.letter :: rest) (some (option,
      if rest.isEmpty then none else some (String.ofList (dropEquals rest)))) := by
  cases rest with
  | nil => exact .letter option
  | cons c rest =>
      by_cases equals : c = '='
      · subst equals
        simpa [dropEquals] using Ends.equals option (String.ofList rest)
      · have kept : dropEquals (c :: rest) = c :: rest := by
          unfold dropEquals
          split
          · simp_all
          · rfl
        simpa [kept] using Ends.path option (String.ofList (c :: rest)) (by simp) (by simpa)

theorem letters_cases (before : Arguments) (text : List Char) :
    letters before text = .error .misuse ∨
      ∃ flags front rest after, text = front ++ rest ∧ Lettered flags front ∧
        flags.foldlM Arguments.raise before = .ok after ∧
        ((∃ last, Ends rest last ∧ letters before text = .ok (after, last)) ∨
          ∃ (flag : Flag) (letter : Char) (others : List Char) (request : Request),
            rest = letter :: others ∧ flag.letter? = some letter ∧
            flag.request? = some request ∧ letters before text = .error request) := by
  induction text generalizing before with
  | nil => exact .inr ⟨[], [], [], before, rfl, rfl, rfl, .inl ⟨_, .nothing, rfl⟩⟩
  | cons c text ih =>
      rw [letters]
      cases stands : letter? c with
      | none => exact .inl rfl
      | some switch =>
          cases switch with
          | path option =>
              obtain rfl := letter?_path.mp stands
              refine .inr ⟨[], [], _, before, rfl, rfl, rfl, .inl ⟨_, ends_of_path option text, ?_⟩⟩
              dsimp only
              split <;> rfl
          | flag flag =>
              have letter := letter?_flag.mp stands
              dsimp only
              rcases before.raise_cases flag with
                raised | ⟨request, serves, raised⟩ | ⟨after, raised⟩
              · exact .inl (by rw [raised]; rfl)
              · exact .inr ⟨[], [], _, before, rfl, rfl, rfl,
                  .inr ⟨flag, c, text, request, rfl, letter, serves, by rw [raised]; rfl⟩⟩
              · rcases ih after with
                  misuse | ⟨flags, front, rest, final, split, lettered, passed, outcome⟩
                · exact .inl (by rw [raised]; exact misuse)
                · refine .inr ⟨flag :: flags, c :: front, rest, final, by rw [split]; rfl,
                    lettered_cons.mpr ⟨letter, lettered⟩, ?_, ?_⟩
                  · rw [List.foldlM_cons, raised]
                    exact passed
                  · rw [raised]
                    exact outcome

theorem switch_letters {text : List Char} (head : text.head? ≠ some '-') (some : text ≠ [])
    (before : Arguments) : switch before ('-' :: text) = letters before text := by
  unfold switch
  split
  · rename_i other
    obtain rfl := (List.cons.inj other).2
    simp at head
  · rename_i other
    rw [(List.cons.inj other).2]
  · rename_i other
    cases text with
    | nil => contradiction
    | cons c rest => exact absurd rfl (other c rest)

theorem splitWord_name {name : String} (unequal : ∀ c ∈ name.toList, decide (c ≠ '=') = true) :
    splitWord name.toList = (name, none) := by
  simp only [splitWord, List.takeWhile_eq_self_iff.mpr unequal,
    List.dropWhile_eq_nil_iff.mpr unequal, String.ofList_toList]

theorem splitWord_equals {name : String} (unequal : ∀ c ∈ name.toList, decide (c ≠ '=') = true)
    (value : String) : splitWord (name.toList ++ '=' :: value.toList) = (name, some value) := by
  simp only [splitWord, List.takeWhile_append_of_pos unequal, List.dropWhile_append_of_pos unequal]
  simp

theorem splitWord_cases (text : List Char) :
    (∃ name : String, text = name.toList ∧ splitWord text = (name, none)) ∨
      ∃ name value : String, text = name.toList ++ '=' :: value.toList ∧
        splitWord text = (name, some value) := by
  have whole := List.takeWhile_append_dropWhile (p := fun c => decide (c ≠ '=')) (l := text)
  have stops := List.head?_dropWhile_not (fun c => decide (c ≠ '=')) text
  unfold splitWord
  cases dropped : text.dropWhile fun c => decide (c ≠ '=') with
  | nil =>
      rw [dropped, List.append_nil] at whole
      exact .inl ⟨_, by rw [String.toList_ofList, whole], rfl⟩
  | cons c value =>
      rw [dropped] at stops
      obtain rfl : c = '=' := by simpa using stops
      refine .inr ⟨_, String.ofList value, ?_, rfl⟩
      rw [String.toList_ofList, String.toList_ofList, ← dropped, whole]

theorem PathOption.word_unequal (option : PathOption) :
    ∀ c ∈ option.word.toList, decide (c ≠ '=') = true := by
  cases option <;> exact List.all_eq_true.mp (by decide)

theorem Flag.word_unequal (flag : Flag) : ∀ c ∈ flag.word.toList, decide (c ≠ '=') = true := by
  cases flag <;> exact List.all_eq_true.mp (by decide)

theorem word_flag (before : Arguments) (flag : Flag) :
    word before flag.word.toList = (before.raise flag).map fun after => (after, none) := by
  simp only [word, splitWord_name flag.word_unequal, word?_flag.mpr rfl]

theorem word_option (before : Arguments) (option : PathOption) :
    word before option.word.toList = .ok (before, some (option, none)) := by
  simp only [word, splitWord_name option.word_unequal, word?_path.mpr rfl]

theorem word_equals (before : Arguments) (option : PathOption) (path : String) :
    word before (option.word.toList ++ '=' :: path.toList) =
      .ok (before, some (option, some path)) := by
  simp only [word, splitWord_equals option.word_unequal, word?_path.mpr rfl]

theorem toList_dashes (name : String) : ("--" ++ name).toList = '-' :: '-' :: name.toList := by
  rw [String.toList_append]
  rfl

theorem toList_dash (text : List Char) : ("-" ++ String.ofList text).toList = '-' :: text := by
  simp [String.toList_append]

theorem switch_dash {text : List Char} (some : text ≠ []) {before : Arguments}
    (read : letters before text ≠ .error .misuse) :
    switch before ("-" ++ String.ofList text).toList = letters before text := by
  rw [toList_dash]
  refine switch_letters (fun dash => read ?_) some before
  obtain ⟨rest, rfl⟩ := List.head?_eq_some_iff.mp dash
  rfl

theorem switch_speaks {argument : String} {flags : List Flag}
    {last : Option (PathOption × Option String)} (speaks : Speaks argument flags last)
    {before after : Arguments} (raised : flags.foldlM Arguments.raise before = .ok after) :
    switch before argument.toList = .ok (after, last) := by
  cases speaks with
  | flag flag =>
      have raised : before.raise flag = .ok after := by simpa using raised
      rw [toList_dashes, switch, word_flag, raised]
      rfl
  | word option =>
      obtain rfl := Except.ok.inj raised
      rw [toList_dashes, switch, word_option]
  | equals option path =>
      obtain rfl := Except.ok.inj raised
      have spelled : "--" ++ option.word ++ "=" ++ path = "--" ++ (option.word ++ "=" ++ path) := by
        simp only [String.append_assoc]
      have text : (option.word ++ "=" ++ path).toList =
          option.word.toList ++ '=' :: path.toList := by
        simp [String.toList_append]
      rw [spelled, toList_dashes, switch, text, word_equals]
  | @letters _ front rest _ lettered ends some =>
      have read : letters before (front ++ rest) = .ok (after, last) := by
        rw [letters_flags lettered, raised]
        exact letters_ends ends after
      rw [switch_dash some (by rw [read]; simp), read]

theorem switch_meets {argument : String} {flags : List Flag} {flag : Flag} {request : Request}
    (meets : Meets argument flags flag) (serves : flag.request? = some request)
    {before after : Arguments} (raised : flags.foldlM Arguments.raise before = .ok after) :
    switch before argument.toList = .error request := by
  have stops : ∀ before : Arguments, before.raise flag = .error request := by
    intro before
    cases flag <;> simp_all [Flag.request?, Arguments.raise]
  have serving : request ≠ .misuse := fun misuse => flag.request?_ne_misuse (misuse ▸ serves)
  cases meets with
  | word =>
      rw [toList_dashes, switch, word_flag, stops]
      rfl
  | @letter _ front _ c rest lettered letter =>
      have read : letters before (front ++ c :: rest) = .error request := by
        rw [letters_flags lettered, raised]
        change letters after (c :: rest) = _
        simp only [letters, letter?_flag.mpr letter, stops]
        rfl
      rw [switch_dash (by simp) (by simpa [read] using serving), read]

theorem word_cases (before : Arguments) (text : List Char) :
    word before text = .error .misuse ∨
      ∃ flags after, flags.foldlM Arguments.raise before = .ok after ∧
        ((∃ last, Speaks (String.ofList ('-' :: '-' :: text)) flags last ∧
            word before text = .ok (after, last)) ∨
          ∃ flag request, Meets (String.ofList ('-' :: '-' :: text)) flags flag ∧
            flag.request? = some request ∧ word before text = .error request) := by
  have dashes (name : String) : String.ofList ('-' :: '-' :: name.toList) = "--" ++ name := by
    rw [← toList_dashes, String.ofList_toList]
  rcases splitWord_cases text with ⟨name, rfl, parted⟩ | ⟨name, value, rfl, parted⟩
  · rw [dashes]
    cases stands : word? name with
    | none => exact .inl (by simp only [word, parted, stands])
    | some switch =>
        cases switch with
        | path option =>
            obtain rfl := word?_path.mp stands
            exact .inr ⟨[], before, rfl, .inl ⟨_, .word option, word_option before option⟩⟩
        | flag flag =>
            obtain rfl := word?_flag.mp stands
            rw [word_flag]
            rcases before.raise_cases flag with raised | ⟨request, serves, raised⟩ | ⟨after, raised⟩
            · exact .inl (by rw [raised]; rfl)
            · exact .inr ⟨[], before, rfl, .inr ⟨flag, request, .word flag, serves,
                by rw [raised]; rfl⟩⟩
            · exact .inr ⟨[flag], after, by simpa using raised, .inl ⟨none, .flag flag,
                by rw [raised]; rfl⟩⟩
  · cases stands : word? name with
    | none => exact .inl (by simp only [word, parted, stands])
    | some switch =>
        cases switch with
        | path option =>
            obtain rfl := word?_path.mp stands
            have spelled :
                String.ofList ('-' :: '-' :: (option.word.toList ++ '=' :: value.toList)) =
                  "--" ++ option.word ++ "=" ++ value := by
              simp [← String.toList_inj]
            rw [spelled]
            exact .inr ⟨[], before, rfl, .inl ⟨_, .equals option value,
              word_equals before option value⟩⟩
        | flag flag => exact .inl (by simp only [word, parted, stands])

theorem switch_cases (before : Arguments) (argument : String) :
    switch before argument.toList = .error .misuse ∨
      ∃ flags after, flags.foldlM Arguments.raise before = .ok after ∧
        ((∃ last, Speaks argument flags last ∧
            switch before argument.toList = .ok (after, last)) ∨
          ∃ flag request, Meets argument flags flag ∧ flag.request? = some request ∧
            switch before argument.toList = .error request) := by
  obtain ⟨text, rfl⟩ : ∃ text, argument = String.ofList text := ⟨_, String.ofList_toList.symm⟩
  rw [String.toList_ofList]
  unfold switch
  split
  · exact word_cases before _
  · rename_i c text _
    rcases letters_cases before (c :: text) with
      misuse | ⟨flags, front, rest, after, parted, lettered, raised, outcome⟩
    · exact .inl misuse
    · have spelled : String.ofList ('-' :: c :: text) = "-" ++ String.ofList (front ++ rest) := by
        rw [parted]
        simp
      rw [spelled]
      refine .inr ⟨flags, after, raised, ?_⟩
      rcases outcome with
        ⟨last, ends, read⟩ | ⟨flag, letter, others, request, rfl, met, serves, read⟩
      · exact .inl ⟨last, .letters lettered ends (parted ▸ List.cons_ne_nil c text), read⟩
      · exact .inr ⟨flag, request, .letter others lettered met, serves, read⟩
  · exact .inl rfl

end Switches

section Lines

theorem isPath_iff {argument : String} : isPath argument = true ↔ StandsAlone argument := by
  have dash : argument.startsWith "-" = true ↔ argument.toList.head? = some '-' := by
    rw [String.startsWith_string_iff]
    change ['-'] <+: argument.toList ↔ _
    cases argument.toList <;> simp [eq_comm]
  rw [isPath, Bool.or_eq_true, beq_iff_eq, Bool.not_eq_true', StandsAlone, ← dash]
  cases argument.startsWith "-" <;> simp

theorem take_flags {flags : List Flag} {items : List Item} {before after : Arguments} :
    (flags.map Item.flag ++ items).foldlM Arguments.take before = .ok after ↔
      ∃ middle, flags.foldlM Arguments.raise before = .ok middle ∧
        items.foldlM Arguments.take middle = .ok after := by
  rw [List.foldlM_append, List.foldlM_map, bind_eq_ok]
  rfl

theorem Speaks.ne_dashes {argument : String} {flags : List Flag}
    {last : Option (PathOption × Option String)} (speaks : Speaks argument flags last)
    {before after : Arguments} (raised : flags.foldlM Arguments.raise before = .ok after) :
    argument ≠ "--" := by
  rintro rfl
  have read := switch_speaks speaks raised
  contradiction

theorem Arguments.set?_of_take {before after : Arguments} {option : PathOption} {path : String} :
    before.take (.path option path) = .ok after ↔ before.set? option path = some after := by
  rw [take]
  cases before.set? option path <;> simp

theorem parseFrom_says {front : List String} {items : List Item} (told : Says front items)
    {before after : Arguments} (taken : items.foldlM Arguments.take before = .ok after)
    (rest : List String) : parseFrom before none (front ++ rest) = parseFrom after none rest := by
  induction told generalizing before with
  | nothing =>
      obtain rfl := Except.ok.inj taken
      rfl
  | flags speaks _ ih =>
      obtain ⟨middle, raised, taken⟩ := take_flags.mp taken
      rw [List.cons_append, parseFrom]
      simp only [speaks.ne_dashes raised, switch_speaks speaks raised, if_false]
      exact ih taken
  | joined speaks _ ih =>
      obtain ⟨middle, raised, taken⟩ := take_flags.mp taken
      rw [List.foldlM_cons, bind_eq_ok] at taken
      obtain ⟨set, path, taken⟩ := taken
      rw [List.cons_append, parseFrom]
      simp only [speaks.ne_dashes raised, switch_speaks speaks raised, if_false,
        Arguments.set?_of_take.mp path]
      exact ih taken
  | apart speaks alone _ ih =>
      obtain ⟨middle, raised, taken⟩ := take_flags.mp taken
      rw [List.foldlM_cons, bind_eq_ok] at taken
      obtain ⟨set, path, taken⟩ := taken
      rw [List.cons_append, List.cons_append, parseFrom]
      simp only [speaks.ne_dashes raised, switch_speaks speaks raised, if_false]
      rw [parseFrom]
      simp only [isPath_iff.mpr alone, if_true, Arguments.set?_of_take.mp path]
      exact ih taken

theorem Says.append {front others : List String} {items more : List Item} (told : Says front items)
    (next : Says others more) : Says (front ++ others) (items ++ more) := by
  induction told with
  | nothing => exact next
  | flags speaks _ ih => simpa using Says.flags speaks ih
  | joined speaks _ ih => simpa using Says.joined speaks ih
  | apart speaks alone _ ih => simpa using Says.apart speaks alone ih

inductive Stops (before : Arguments) : List String → Request → Prop
  | nothing : Stops before [] (.run before)
  | dashes : Stops before ["--"] (.run before)
  | meets {argument : String} {others : List String} {flags : List Flag} {flag : Flag}
      {after : Arguments} {request : Request} : Meets argument flags flag →
      flags.foldlM Arguments.raise before = .ok after → flag.request? = some request →
      Stops before (argument :: others) request

theorem parseFrom_stops {before : Arguments} {rest : List String} {request : Request}
    (stops : Stops before rest request) : parseFrom before none rest = request := by
  cases stops with
  | nothing => rfl
  | dashes => rfl
  | @meets argument _ _ flag _ _ meets raised serves =>
      have read := switch_meets meets serves raised
      have other : argument ≠ "--" := by
        rintro rfl
        exact flag.request?_ne_misuse (serves.trans (congrArg some (Except.error.inj read.symm)))
      rw [parseFrom]
      simp only [other, if_false, read]

theorem take_path_nil {before after : Arguments} {option : PathOption} {path : String}
    (set : before.set? option path = some after) :
    [Item.path option path].foldlM Arguments.take before = .ok after := by
  rw [List.foldlM_cons, Arguments.set?_of_take.mpr set]
  rfl

theorem parseFrom_step (before : Arguments) (argument : String) (others : List String) :
    parseFrom before none (argument :: others) = .misuse ∨
      (∃ request, Stops before (argument :: others) request) ∨
      ∃ front items rest after, argument :: others = front ++ rest ∧ front ≠ [] ∧
        Says front items ∧ items.foldlM Arguments.take before = .ok after := by
  by_cases dashes : argument = "--"
  · subst dashes
    cases others with
    | nil => exact .inr (.inl ⟨_, .dashes⟩)
    | cons => exact .inl rfl
  rw [parseFrom]
  simp only [dashes, if_false]
  rcases switch_cases before argument with
    misuse | ⟨flags, middle, raised, ⟨last, speaks, read⟩ | ⟨flag, request, meets, serves, read⟩⟩
  · exact .inl (by rw [misuse])
  · rw [read]
    match last, speaks with
    | none, speaks =>
        refine .inr (.inr ⟨[argument], _, others, middle, rfl, by simp, .flags speaks .nothing, ?_⟩)
        exact take_flags.mpr ⟨middle, raised, rfl⟩
    | some (option, some path), speaks =>
        cases set : middle.set? option path with
        | none => exact .inl (by simp only [set])
        | some after =>
            refine .inr (.inr ⟨[argument], _, others, after, rfl, by simp,
              .joined speaks .nothing, ?_⟩)
            exact take_flags.mpr ⟨middle, raised, take_path_nil set⟩
    | some (option, none), speaks =>
        cases others with
        | nil => exact .inl rfl
        | cons path others =>
            dsimp only
            rw [parseFrom]
            by_cases alone : isPath path = true
            · cases set : middle.set? option path with
              | none => exact .inl (by simp only [alone, if_true])
              | some after =>
                  refine .inr (.inr ⟨[argument, path], _, others, after, rfl, by simp,
                    .apart speaks (isPath_iff.mp alone) .nothing, ?_⟩)
                  exact take_flags.mpr ⟨middle, raised, take_path_nil set⟩
            · exact .inl (by simp only [alone, if_false, Bool.false_eq_true])
  · exact .inr (.inl ⟨request, .meets meets raised serves⟩)

theorem parseFrom_cases (before : Arguments) (line : List String) :
    parseFrom before none line = .misuse ∨
      ∃ front items rest after, line = front ++ rest ∧ Says front items ∧
        items.foldlM Arguments.take before = .ok after ∧ ∃ request, Stops after rest request := by
  induction known : line.length using Nat.strong_induction_on generalizing before line with
  | _ size ih =>
      cases line with
      | nil => exact .inr ⟨[], [], [], before, rfl, .nothing, rfl, _, .nothing⟩
      | cons argument others =>
          rcases parseFrom_step before argument others with
            misuse | stops | ⟨front, items, rest, after, parted, some, told, taken⟩
          · exact .inl misuse
          · exact .inr ⟨[], [], _, before, rfl, .nothing, rfl, stops⟩
          · rw [parted, parseFrom_says told taken]
            have shorter : rest.length < size := by
              have longer := List.length_pos_iff.mpr some
              rw [← known, parted, List.length_append]
              omega
            rcases ih _ shorter after rest rfl with
              misuse | ⟨next, more, rest, final, rfl, toldToo, takenToo, stops⟩
            · exact .inl misuse
            · refine .inr ⟨front ++ next, items ++ more, rest, final, by simp,
                told.append toldToo, ?_, stops⟩
              rw [List.foldlM_append, bind_eq_ok]
              exact ⟨after, taken, takenToo⟩

theorem parse_eq {line : List String} {request : Request} (made : request ≠ .misuse) :
    parse line = request ↔ ∃ front items rest after, line = front ++ rest ∧ Says front items ∧
      Makes .none items after ∧ Stops after rest request := by
  constructor
  · intro parsed
    rcases parseFrom_cases .none line with
      misuse | ⟨front, items, rest, after, rfl, told, taken, other, stops⟩
    · exact absurd (parsed.symm.trans misuse) made
    · rw [parse, parseFrom_says told taken, parseFrom_stops stops] at parsed
      exact ⟨front, items, rest, after, rfl, told, take_iff.mp taken, parsed ▸ stops⟩
  · rintro ⟨front, items, rest, after, rfl, told, makes, stops⟩
    rw [parse, parseFrom_says told (take_iff.mpr makes), parseFrom_stops stops]

theorem parse_run {line : List String} {request : Arguments} :
    parse line = .run request ↔ Spells line request := by
  rw [parse_eq (by simp)]
  constructor
  · rintro ⟨front, items, rest, after, rfl, told, makes, stops⟩
    cases stops with
    | nothing => exact ⟨front, items, .inl (List.append_nil front), told, makes⟩
    | dashes => exact ⟨front, items, .inr rfl, told, makes⟩
    | @meets _ _ _ flag _ _ _ _ serves => cases flag <;> simp [Flag.request?] at serves
  · rintro ⟨front, items, rfl | rfl, told, makes⟩
    · exact ⟨_, items, [], request, (List.append_nil _).symm, told, makes, .nothing⟩
    · exact ⟨front, items, ["--"], request, rfl, told, makes, .dashes⟩

theorem parse_flag {line : List String} {flag : Flag} {request : Request}
    (serves : flag.request? = some request) : parse line = request ↔ Asks flag line := by
  rw [parse_eq fun misuse => flag.request?_ne_misuse (misuse ▸ serves)]
  constructor
  · rintro ⟨front, items, rest, after, rfl, told, makes, stops⟩
    cases stops with
    | nothing => cases flag <;> simp [Flag.request?] at serves
    | dashes => cases flag <;> simp [Flag.request?] at serves
    | @meets argument others flags other final _ meets raised serving =>
        obtain rfl := Flag.request?_inj serves serving
        refine ⟨front, argument, others, items, flags, final, rfl, told, meets, ?_⟩
        rw [← take_iff, List.foldlM_append, bind_eq_ok]
        exact ⟨after, take_iff.mpr makes, List.foldlM_map.trans raised⟩
  · rintro ⟨front, argument, others, items, flags, final, rfl, told, meets, makes⟩
    rw [← take_iff, List.foldlM_append, bind_eq_ok] at makes
    obtain ⟨after, taken, raised⟩ := makes
    rw [List.foldlM_map] at raised
    exact ⟨front, items, _, after, rfl, told, take_iff.mp taken, .meets meets raised serves⟩

theorem parse_understands : Understands parse where
  run _ _ := parse_run
  help _ := parse_flag rfl
  version _ := parse_flag rfl

end Lines

end Waveguide.CommandLine
