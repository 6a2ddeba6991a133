import Mathlib
import Waveguide.Template.Builtin

/-!
How a resource is read. Its text is made of lines: remarks and blank lines, the titles of the two
sections, and one indented line for each template. Read as a document, the text gives the templates
line by line. The built-in resource is such a text.
-/

namespace Waveguide

namespace Yaml

def wordChar (c : Char) : Bool := c.isAlphanum || c = '_'

def printable (c : Char) : Bool := 0x20 ≤ c.toNat && c.toNat ≤ 0x7e

theorem ne_of_class {p : Char → Bool} {c mark : Char} (inside : p c = true)
    (outside : p mark = false) : c ≠ mark := by
  rintro rfl
  simp [inside] at outside

theorem printable_isBreak {c : Char} (shown : printable c = true) : isBreak c = false := by
  simp only [isBreak, decide_eq_false (ne_of_class shown (by decide : printable '\n' = false)),
    decide_eq_false (ne_of_class shown (by decide : printable '\u2028' = false)),
    decide_eq_false (ne_of_class shown (by decide : printable '\u2029' = false)), Bool.or_self]

theorem wordChar_printable {c : Char} (word : wordChar c = true) : printable c = true := by
  simp only [wordChar, Char.isAlphanum, Char.isAlpha, Char.isUpper, Char.isLower, Char.isDigit,
    Bool.or_eq_true, Bool.and_eq_true, decide_eq_true_eq, ge_iff_le, UInt32.le_iff_toNat_le,
    Char.toNat_val] at word
  rcases word with bounds | rfl
  · simp only [printable, Bool.and_eq_true, decide_eq_true_eq]
    simp at bounds
    omega
  · decide

theorem printable_isAllowed {c : Char} (shown : printable c = true) : isAllowed c = true := by
  simp only [printable, Bool.and_eq_true, decide_eq_true_eq] at shown
  simp [isAllowed, shown]

theorem unifyBreaks_printable (text : List Char)
    (shown : ∀ c ∈ text, printable c = true ∨ c = '\n') : unifyBreaks text = text := by
  induction text with
  | nil => rfl
  | cons c rest ih =>
      have plain : c ≠ '\r' ∧ c ≠ '\x85' := by
        rcases shown c (by simp) with printed | rfl
        · exact ⟨ne_of_class printed (by decide), ne_of_class printed (by decide)⟩
        · decide
      rw [unifyBreaks]
      · simp [plain, ih fun d member => shown d (by simp [member])]
      · rintro _ rfl
        exact absurd rfl plain.1

structure IsWord (word : List Char) : Prop where
  nonempty : word ≠ []
  chars : ∀ c ∈ word, wordChar c = true
  length : word.length ≤ 1024

theorem plainFrom_word (floor : Nat) (rest : List Char) (gap : atGap rest = true)
    (word : List Char) (chars : ∀ c ∈ word, wordChar c = true) :
    ∀ column text, plainFrom false floor
        ⟨String.ofList text.reverse, ⟨word ++ ':' :: rest, column⟩⟩ ⟨column, text, Gap.none⟩
        (word ++ ':' :: rest) =
      some ⟨String.ofList (text.reverse ++ word), ⟨':' :: rest, column + word.length⟩⟩ := by
  induction word with
  | nil =>
      intro column text
      simp [plainFrom, isBreak, isGap, Gap.crossed, Gap.none, gap]
  | cons c word ih =>
      intro column text
      have word : wordChar c = true := chars c (by simp)
      have visible : isGap c = false := by
        simp [isGap, ne_of_class word (by decide : wordChar ' ' = false),
          ne_of_class word (by decide : wordChar '\t' = false)]
      have continued := ih (fun d member => chars d (by simp [member])) (column + 1) (c :: text)
      simp only [List.reverse_cons, List.append_assoc, List.singleton_append] at continued
      simp [plainFrom, printable_isBreak (wordChar_printable word), visible, Gap.crossed, Gap.none,
        ne_of_class word (by decide : wordChar '#' = false),
        ne_of_class word (by decide : wordChar ':' = false), Scan.push, Gap.fold]
      simpa [Gap.none, Nat.add_assoc, Nat.add_comm 1] using continued

theorem startsPlain_word {c : Char} (word : wordChar c = true) (rest : List Char) :
    startsPlain false (c :: rest) = true := by
  have indicator : "#&*!|>\x27\"%@\x60".toList.contains c = false := by
    rw [← Bool.not_eq_true, List.contains_iff_mem]
    intro member
    have marks : ("#&*!|>\x27\"%@\x60".toList.all fun mark => !wordChar mark) = true := by decide
    have mark := List.all_eq_true.mp marks c member
    simp [word] at mark
  rw [startsPlain, if_neg (ne_of_class word (by decide)), if_neg, indicator,
    printable_isBreak (wordChar_printable word)]
  · simp [isGap, isFlowMark, ne_of_class word (by decide : wordChar ' ' = false),
      ne_of_class word (by decide : wordChar '\t' = false),
      ne_of_class word (by decide : wordChar ',' = false),
      ne_of_class word (by decide : wordChar '[' = false),
      ne_of_class word (by decide : wordChar ']' = false),
      ne_of_class word (by decide : wordChar '\x7b' = false),
      ne_of_class word (by decide : wordChar '\x7d' = false)]
  · simp [ne_of_class word (by decide : wordChar '?' = false),
      ne_of_class word (by decide : wordChar ':' = false)]

theorem scalar?_word {word : List Char} (isWord : IsWord word) (floor column : Nat)
    (rest : List Char) (gap : atGap rest = true) :
    scalar? false floor ⟨word ++ ':' :: rest, column⟩ =
      some (plain (String.ofList word),
        ⟨String.ofList word, ⟨':' :: rest, column + word.length⟩⟩) := by
  obtain ⟨c, others, rfl⟩ := List.exists_cons_of_ne_nil isWord.nonempty
  have word : wordChar c = true := isWord.chars c (by simp)
  have unquoted : atQuote ⟨c :: others ++ ':' :: rest, column⟩ = false := by
    simp [atQuote, ne_of_class word (by decide : wordChar '"' = false),
      ne_of_class word (by decide : wordChar '\x27' = false)]
  have scanned : plainScalar false floor ⟨c :: others ++ ':' :: rest, column⟩ =
      some ⟨String.ofList (c :: others), ⟨':' :: rest, column + (c :: others).length⟩⟩ :=
    (if_pos (startsPlain_word word _)).trans
      (plainFrom_word floor rest gap (c :: others) isWord.chars column [])
  rw [scalar?, unquoted, scanned]
  rfl

theorem singleQuoted_plain (rest : List Char) (after : rest.head? ≠ some '\x27')
    (text : List Char) (shown : ∀ c ∈ text, printable c = true ∧ c ≠ '\x27') :
    ∀ column before blanks, column ≠ 0 →
      singleQuoted ⟨column, before, ⟨blanks, [], false⟩⟩ (text ++ '\x27' :: rest) =
        some ⟨String.ofList ((blanks ++ before).reverse ++ text),
          ⟨rest, column + text.length + 1⟩⟩ := by
  induction text with
  | nil =>
      intro column before blanks inside
      cases rest with
      | nil => simp [singleQuoted, Scan.close, Scan.finish, Gap.fold]
      | cons d rest =>
          have unquoted : d ≠ '\x27' := by simpa using after
          simp [singleQuoted, unquoted, Scan.close, Scan.finish, Gap.fold]
  | cons c text ih =>
      intro column before blanks inside
      have ⟨printed, unquoted⟩ := shown c (by simp)
      have continued := ih fun d member => shown d (by simp [member])
      rw [List.cons_append, singleQuoted.eq_def]
      simp only [if_neg unquoted, printable_isBreak printed]
      cases isGap c with
      | true =>
          refine (continued (column + 1) before (c :: blanks) (by omega)).trans ?_
          simp [Nat.add_assoc, Nat.add_comm 1]
      | false =>
          simp only [Bool.false_eq_true, if_false, inside, decide_false, Bool.false_and]
          refine (continued (column + 1) (c :: (blanks ++ before)) [] (by omega)).trans ?_
          simp [Nat.add_assoc, Nat.add_comm 1]

theorem keyReaches_word {word : List Char} (isWord : IsWord word) (rest : List Char)
    (column finish : Nat) :
    Cursor.keyReaches ⟨word ++ ':' :: rest, column⟩ ⟨':' :: rest, finish⟩ = true := by
  have unbroken : word.any isBreak = false :=
    List.any_eq_false.mpr fun c member => by
      simp [printable_isBreak (wordChar_printable (isWord.chars c member))]
  simp [Cursor.keyReaches, isWord.length, unbroken]

theorem key?_word {word : List Char} (isWord : IsWord word) (column : Nat) (rest : List Char)
    (gap : atGap rest = true) :
    key? ⟨word ++ ':' :: rest, column⟩ =
      some (String.ofList word, ⟨rest, column + word.length + 1⟩) := by
  simp [key?, scalar?_word isWord 0 column rest gap, Cursor.skipGap, isGap, Cursor.atColon, gap,
    keyReaches_word isWord, Cursor.step]

theorem blockNode?_scalar (depth floor : Nat) (fresh : Bool) {c : Char} {rest : List Char}
    (column : Nat) (dash : c ≠ '-') (bar : c ≠ '|') (angle : c ≠ '>') (bracket : c ≠ '[')
    (brace : c ≠ '\x7b') :
    blockNode? (depth + 1) floor fresh ⟨c :: rest, column⟩ = (do
      let (node, scanned) ← scalar? false floor ⟨c :: rest, column⟩
      let next := scanned.next.skipGap
      if next.atColon false then
        if fresh && Cursor.keyReaches ⟨c :: rest, column⟩ next then
          let (entries, next) ← blockEntries? depth column scanned.text next.step
          some (mapping entries, next)
        else none
      else some (node, ← endLine? scanned.next)) := by
  have undashed : Cursor.atDash ⟨c :: rest, column⟩ = false := by
    rw [Cursor.atDash]
    split
    · next same => exact absurd (List.cons.inj same).1 dash
    · rfl
  rw [blockNode?, undashed, if_neg Bool.false_ne_true]
  split
  · next same => exact absurd (List.cons.inj same).1 bar
  · next same => exact absurd (List.cons.inj same).1 angle
  · next same => exact absurd (List.cons.inj same).1 bracket
  · next same => exact absurd (List.cons.inj same).1 brace
  · rfl

theorem blockNode?_word (depth floor : Nat) {word : List Char} (isWord : IsWord word) (column : Nat)
    (rest : List Char) (gap : atGap rest = true) :
    blockNode? (depth + 1) floor true ⟨word ++ ':' :: rest, column⟩ =
      (blockEntries? depth column (String.ofList word) ⟨rest, column + word.length + 1⟩).map
        fun found => (mapping found.1, found.2) := by
  have scanned := scalar?_word isWord floor column rest gap
  have reaches := keyReaches_word isWord rest column (column + word.length)
  obtain ⟨c, others, rfl⟩ := List.exists_cons_of_ne_nil isWord.nonempty
  have word : wordChar c = true := isWord.chars c (by simp)
  rw [List.cons_append] at scanned reaches ⊢
  rw [blockNode?_scalar depth floor true column (ne_of_class word (by decide))
    (ne_of_class word (by decide)) (ne_of_class word (by decide)) (ne_of_class word (by decide))
    (ne_of_class word (by decide)), scanned]
  simp [Cursor.skipGap, isGap, Cursor.atColon, gap, reaches, Cursor.step, Option.map_eq_bind,
    -List.length_cons]

theorem blockNode?_quoted (depth floor column : Nat) {text rest : List Char} {next : Cursor}
    (shown : ∀ c ∈ text, printable c = true ∧ c ≠ '\x27')
    (skipped : Cursor.skipFrom false 0 false false true rest = some (next, true)) :
    blockNode? (depth + 1) floor false ⟨'\x27' :: (text ++ '\x27' :: '\n' :: rest), column⟩ =
      some (quoted (String.ofList text), next) := by
  have scanned := singleQuoted_plain ('\n' :: rest) (by simp) text shown (column + 1) [] []
    (by omega)
  have closes : scalar? false floor ⟨'\x27' :: (text ++ '\x27' :: '\n' :: rest), column⟩ =
      some (quoted (String.ofList text),
        ⟨String.ofList text, ⟨'\n' :: rest, column + 1 + text.length + 1⟩⟩) := by
    rw [scalar?, if_pos (by rfl)]
    exact congrArg (Option.map _) scanned
  rw [blockNode?_scalar depth floor false column (by decide) (by decide) (by decide) (by decide)
    (by decide), closes]
  simp [Cursor.skipGap, isGap, Cursor.atColon, endLine?, Cursor.skip, Cursor.skipFrom, isBreak,
    skipped]

theorem skipFrom_remark (rest : List Char) (remark : List Char)
    (shown : ∀ c ∈ remark, printable c = true) :
    ∀ column tabs broke,
      Cursor.skipFrom false column tabs true broke (remark ++ '\n' :: rest) =
        Cursor.skipFrom false 0 false false true rest := by
  induction remark with
  | nil => intro column tabs broke; simp [Cursor.skipFrom, isBreak]
  | cons c remark ih =>
      intro column tabs broke
      rw [List.cons_append, Cursor.skipFrom, printable_isBreak (shown c (by simp))]
      exact ih (fun d member => shown d (by simp [member])) (column + 1) tabs broke

theorem skipFrom_visible {c : Char} (word : wordChar c = true) (rest : List Char) (column : Nat)
    (tabs broke : Bool) :
    Cursor.skipFrom false column tabs false broke (c :: rest) =
      some (⟨c :: rest, column⟩, broke) := by
  simp [Cursor.skipFrom, printable_isBreak (wordChar_printable word),
    ne_of_class word (by decide : wordChar '\ufeff' = false),
    ne_of_class word (by decide : wordChar ' ' = false),
    ne_of_class word (by decide : wordChar '\t' = false),
    ne_of_class word (by decide : wordChar '#' = false)]

end Yaml

namespace Templates

open Yaml

structure IsEntry (entry : String × String) : Prop where
  name : IsWord entry.1.toList
  text : ∀ c ∈ entry.2.toList, printable c = true ∧ c ≠ '\x27'

inductive EntryLines : List (String × String) → List Char → Prop where
  | nil : EntryLines [] []
  | blank {entries lines} : EntryLines entries lines → EntryLines entries ('\n' :: lines)
  | remark {entries lines remark} : (∀ c ∈ remark, printable c = true) →
      EntryLines entries lines → EntryLines entries ('#' :: remark ++ '\n' :: lines)
  | entry {entry entries lines} : IsEntry entry → EntryLines entries lines →
      EntryLines (entry :: entries) (entryLine entry ++ lines)

def valueText (entry : String × String) (rest : List Char) : List Char :=
  ' ' :: '\x27' :: (entry.2.toList ++ '\x27' :: '\n' :: rest)

theorem entryLine_append (entry : String × String) (rest : List Char) :
    entryLine entry ++ rest =
      ' ' :: ' ' :: (entry.1.toList ++ ':' :: valueText entry rest) := by
  simp [entryLine, valueText]

/-- What may follow the lines of a section: nothing, or the title of the next one. -/
inductive Ending : List Char → Prop where
  | none : Ending []
  | title {c rest} : wordChar c = true → Ending (c :: rest)

theorem Ending.skip {rest : List Char} (ending : Ending rest) (broke : Bool) :
    Cursor.skipFrom false 0 false false broke rest = some (⟨rest, 0⟩, broke) := by
  cases ending with
  | none => rfl
  | title word => exact skipFrom_visible word _ 0 false broke

theorem EntryLines.skip_none {lines rest : List Char} (none : EntryLines [] lines)
    (ending : Ending rest) (broke : Bool) :
    Cursor.skipFrom false 0 false false broke (lines ++ rest) =
      some (⟨rest, 0⟩, broke || !lines.isEmpty) := by
  generalize held : ([] : List (String × String)) = entries at none
  induction none generalizing broke with
  | nil => simpa using ending.skip broke
  | blank _ ih =>
      simp [Cursor.skipFrom, isBreak, ih true held]
  | remark shown _ ih =>
      simp [Cursor.skipFrom, isBreak, skipFrom_remark _ _ shown, ih true held]
  | entry => simp at held

theorem EntryLines.skip_entry {entry : String × String} {entries : List (String × String)}
    {lines : List Char} (some : EntryLines (entry :: entries) lines) :
    IsEntry entry ∧ ∃ after, EntryLines entries after ∧ ∀ rest,
      Cursor.skipFrom false 0 false false true (lines ++ rest) =
        .some (⟨entry.1.toList ++ ':' :: valueText entry (after ++ rest), 2⟩, true) := by
  generalize held : entry :: entries = all at some
  induction some with
  | nil => simp at held
  | blank _ ih =>
      obtain ⟨isEntry, after, lines, skips⟩ := ih held
      exact ⟨isEntry, after, lines, fun rest => by
        simpa [Cursor.skipFrom, isBreak] using skips rest⟩
  | remark shown _ ih =>
      obtain ⟨isEntry, after, lines, skips⟩ := ih held
      exact ⟨isEntry, after, lines, fun rest => by
        simpa [Cursor.skipFrom, isBreak, skipFrom_remark _ _ shown] using skips rest⟩
  | @entry first others after isEntry lines ih =>
      obtain ⟨rfl, rfl⟩ := List.cons.inj held
      refine ⟨isEntry, after, lines, fun rest => ?_⟩
      obtain ⟨c, word, spelled⟩ := List.exists_cons_of_ne_nil isEntry.name.nonempty
      have first : wordChar c = true := isEntry.name.chars c (by simp [spelled])
      rw [List.append_assoc, entryLine_append, spelled, List.cons_append]
      exact skipFrom_visible first _ 2 false true

def quotedEntry (entry : String × String) : String × Yaml := (entry.1, .quoted entry.2)

theorem blockEntries?_value (depth column start : Nat) {entry : String × String}
    (isEntry : IsEntry entry) {rest : List Char} {next : Cursor}
    (skipped : Cursor.skipFrom false 0 false false true rest = some (next, true)) :
    blockEntries? (depth + 2) column entry.1 ⟨valueText entry rest, start⟩ =
      if next.finished || next.column < column then some ([quotedEntry entry], next)
      else if next.column = column then do
        let (other, next) ← key? next
        let (entries, next) ← blockEntries? (depth + 1) column other next
        some (quotedEntry entry :: entries, next)
      else none := by
  have value := blockNode?_quoted depth (column + 1) (start + 1) isEntry.text skipped
  have reached : Cursor.skip ⟨valueText entry rest, start⟩ =
      some (⟨'\x27' :: (entry.2.toList ++ '\x27' :: '\n' :: rest), start + 1⟩, false) := by
    simp [Cursor.skip, valueText, Cursor.skipFrom, isBreak]
  have unfinished : Cursor.finished
      ⟨'\x27' :: (entry.2.toList ++ '\x27' :: '\n' :: rest), start + 1⟩ = false := by
    simp [Cursor.finished, Cursor.atEnd, Cursor.atMark]
  rw [blockEntries?, reached]
  simp [unfinished, value, quotedEntry]

theorem blockEntries?_lines {rest : List Char} (ending : Ending rest)
    (entries : List (String × String)) :
    ∀ entry lines depth column, IsEntry entry → EntryLines entries lines →
      blockEntries? (depth + entries.length + 2) 2 entry.1
          ⟨valueText entry (lines ++ rest), column⟩ =
        some ((entry :: entries).map quotedEntry, ⟨rest, 0⟩) := by
  induction entries with
  | nil =>
      intro entry lines depth column isEntry none
      rw [blockEntries?_value _ 2 column isEntry (none.skip_none ending true)]
      simp
  | cons next entries ih =>
      intro entry lines depth column isEntry some
      obtain ⟨isNext, after, others, skips⟩ := some.skip_entry
      rw [List.length_cons, ← Nat.add_assoc,
        blockEntries?_value _ 2 column isEntry (skips rest)]
      have unfinished : Cursor.finished
          ⟨next.1.toList ++ ':' :: valueText next (after ++ rest), 2⟩ = false := by
        simp [Cursor.finished, Cursor.atEnd, Cursor.atMark]
      have key := key?_word isNext.name 2 (valueText next (after ++ rest)) rfl
      have remaining := ih next after depth (2 + next.1.toList.length + 1) isNext others
      simp [unfinished, key, remaining]

theorem Ending.finished {rest : List Char} (ending : Ending rest) :
    Cursor.finished ⟨rest, 0⟩ = rest.isEmpty := by
  cases ending with
  | none => rfl
  | @title c rest word =>
      have unmarked : atDocumentMark (c :: rest) = false := by
        rw [atDocumentMark.eq_def]
        split
        · next same => exact absurd (List.cons.inj same).1 (ne_of_class word (by decide))
        · next same => exact absurd (List.cons.inj same).1 (ne_of_class word (by decide))
        · rfl
      simp [Cursor.finished, Cursor.atEnd, Cursor.atMark, unmarked]

def sectionNode (entries : List (String × String)) : Yaml := .mapping (entries.map quotedEntry)

theorem blockEntries?_section (depth column : Nat) (title : String) {entry : String × String}
    {entries : List (String × String)} {lines : List Char} (rest : List Char) (ending : Ending rest)
    (held : EntryLines (entry :: entries) lines) :
    blockEntries? (depth + entries.length + 4) 0 title ⟨'\n' :: (lines ++ rest), column⟩ =
      if rest.isEmpty then some ([(title, sectionNode (entry :: entries))], ⟨rest, 0⟩)
      else (do
        let (other, next) ← key? ⟨rest, 0⟩
        let (others, next) ← blockEntries? (depth + entries.length + 3) 0 other next
        some ((title, sectionNode (entry :: entries)) :: others, next)) := by
  obtain ⟨isEntry, after, others, skips⟩ := held.skip_entry
  have reached : Cursor.skip ⟨'\n' :: (lines ++ rest), column⟩ =
      some (⟨entry.1.toList ++ ':' :: valueText entry (after ++ rest), 2⟩, true) := by
    simpa [Cursor.skip, Cursor.skipFrom, isBreak] using skips rest
  have unfinished : Cursor.finished
      ⟨entry.1.toList ++ ':' :: valueText entry (after ++ rest), 2⟩ = false := by
    simp [Cursor.finished, Cursor.atEnd, Cursor.atMark]
  have node := blockNode?_word (depth + entries.length + 2) 1 isEntry.name 2
    (valueText entry (after ++ rest)) rfl
  rw [String.ofList_toList, blockEntries?_lines ending entries entry after depth
    (2 + entry.1.toList.length + 1) isEntry others] at node
  rw [blockEntries?, reached]
  simp [unfinished, node, ending.finished, sectionNode]

theorem EntryLines.shown {entries : List (String × String)} {lines : List Char}
    (held : EntryLines entries lines) : ∀ c ∈ lines, printable c = true ∨ c = '\n' := by
  have hash : printable '#' = true := by decide
  induction held with
  | nil => simp
  | blank _ ih => simpa using ih
  | remark shown _ ih =>
      simp only [List.cons_append, List.mem_cons, List.mem_append]
      rintro c (rfl | member | rfl | member)
      · exact .inl hash
      · exact .inl (shown c member)
      · exact .inr rfl
      · exact ih c member
  | @entry entry _ _ isEntry _ ih =>
      have name : ∀ c ∈ entry.1.toList, printable c = true := fun c member =>
        wordChar_printable (isEntry.name.chars c member)
      have text : ∀ c ∈ entry.2.toList, printable c = true := fun c member =>
        (isEntry.text c member).1
      rw [entryLine_append]
      simp only [valueText, List.mem_cons, List.mem_append]
      rintro c (rfl | rfl | member | rfl | rfl | rfl | member | rfl | rfl | member)
      all_goals first | exact .inl (by decide) | exact .inr rfl | skip
      · exact .inl (name c member)
      · exact .inl (text c member)
      · exact ih c member

theorem EntryLines.length_le {entries : List (String × String)} {lines : List Char}
    (held : EntryLines entries lines) : entries.length ≤ lines.length := by
  induction held with
  | nil => simp
  | blank _ ih => simp; omega
  | remark _ _ ih => simp; omega
  | entry _ _ ih => simp [entryLine]; omega

theorem section?_sectionNode (entries : List (String × String)) :
    Templates.section? (sectionNode entries) = some entries.reverse := by
  have texts : (entries.map quotedEntry).mapM
      (fun member : String × Yaml => do some (member.1, ← Document.text? member.2)) =
        some entries := by
    induction entries with
    | nil => rfl
    | cons entry entries ih =>
        rw [List.map_cons, List.mapM_cons, ih]
        rfl
  exact congrArg (fun found : Option (List (String × String)) => found.bind fun entries =>
    some entries.reverse) texts

def resourceLines (remarks header code : List Char) : List Char :=
  remarks ++ (titleLine "Header" ++ (header ++ (titleLine "Code" ++ code)))

theorem isWord_header : IsWord "Header".toList :=
  ⟨by decide, List.all_eq_true.mp (by decide), by decide⟩

theorem isWord_code : IsWord "Code".toList :=
  ⟨by decide, List.all_eq_true.mp (by decide), by decide⟩

section Resource

variable {remarks header code : List Char} {first second : String × String}
  {headers codes : List (String × String)}

theorem resourceLines_shown {entries others : List (String × String)}
    (remarkLines : EntryLines [] remarks) (headerLines : EntryLines entries header)
    (codeLines : EntryLines others code) :
    ∀ c ∈ resourceLines remarks header code, printable c = true ∨ c = '\n' := by
  have titled : ((titleLine "Header" ++ titleLine "Code").all fun c =>
      printable c || c = '\n') = true := by decide
  have titles := List.all_eq_true.mp titled
  simp only [Bool.or_eq_true, decide_eq_true_eq, resourceLines, List.mem_append] at titles ⊢
  rintro c (member | member | member | member | member)
  · exact remarkLines.shown c member
  · exact titles c (.inl member)
  · exact headerLines.shown c member
  · exact titles c (.inr member)
  · exact codeLines.shown c member

theorem blockEntries?_code (codeLines : EntryLines (second :: codes) code) {depth : Nat}
    (enough : codes.length + 4 ≤ depth) (column : Nat) :
    blockEntries? depth 0 "Code" ⟨'\n' :: code, column⟩ =
      some ([("Code", sectionNode (second :: codes))], ⟨[], 0⟩) := by
  obtain ⟨depth, rfl⟩ := Nat.exists_eq_add_of_le' enough
  rw [← Nat.add_assoc]
  simpa using blockEntries?_section depth column "Code" [] .none codeLines

theorem blockNode?_sections (headerLines : EntryLines (first :: headers) header)
    (codeLines : EntryLines (second :: codes) code) {depth : Nat}
    (enough : headers.length + codes.length + 6 ≤ depth) :
    blockNode? depth 0 true ⟨titleLine "Header" ++ (header ++ (titleLine "Code" ++ code)), 0⟩ =
      some (.mapping [("Header", sectionNode (first :: headers)),
        ("Code", sectionNode (second :: codes))], ⟨[], 0⟩) := by
  obtain ⟨depth, rfl⟩ := Nat.exists_eq_add_of_le' enough
  have headerRead := blockEntries?_section (depth + codes.length + 1) 7 "Header"
    (titleLine "Code" ++ code) (.title (c := 'C') (by decide)) headerLines
  have codeKey : key? ⟨titleLine "Code" ++ code, 0⟩ = some ("Code", ⟨'\n' :: code, 5⟩) :=
    key?_word isWord_code 0 ('\n' :: code) rfl
  have codeRead := blockEntries?_code codeLines
    (show codes.length + 4 ≤ depth + codes.length + 1 + headers.length + 3 by omega) 5
  rw [codeKey] at headerRead
  have opened := blockNode?_word (depth + codes.length + 1 + headers.length + 4) 0 isWord_header 0
    ('\n' :: (header ++ (titleLine "Code" ++ code))) rfl
  rw [show depth + (headers.length + codes.length + 6) =
    depth + codes.length + 1 + headers.length + 4 + 1 by omega]
  refine opened.trans ?_
  have untitled : (titleLine "Code" ++ code).isEmpty = false := rfl
  rw [show 0 + "Header".toList.length + 1 = 7 from rfl, String.ofList_toList, headerRead]
  simp [untitled, codeRead]

theorem parse?_resourceLines (remarkLines : EntryLines [] remarks)
    (headerLines : EntryLines (first :: headers) header)
    (codeLines : EntryLines (second :: codes) code) :
    Yaml.parse? (String.ofList (resourceLines remarks header code)) =
      some (.mapping [("Header", sectionNode (first :: headers)),
        ("Code", sectionNode (second :: codes))]) := by
  have shown := resourceLines_shown remarkLines headerLines codeLines
  have allowed : (resourceLines remarks header code).all isAllowed = true :=
    List.all_eq_true.mpr fun c member => by
      rcases shown c member with printed | rfl
      · exact printable_isAllowed printed
      · decide
  have unified := unifyBreaks_printable _ shown
  obtain ⟨flag, started⟩ : ∃ flag, Cursor.skipIndentation ⟨resourceLines remarks header code, 0⟩ =
      some (⟨titleLine "Header" ++ (header ++ (titleLine "Code" ++ code)), 0⟩, flag) :=
    ⟨_, remarkLines.skip_none (.title (c := 'H') (by decide)) false⟩
  -- The depth of the parser is a multiple of the length, and each entry has a line.
  generalize size : (resourceLines remarks header code).length = length at *
  have enough : headers.length + codes.length + 6 ≤ 4 * length + 8 := by
    have := headerLines.length_le
    have := codeLines.length_le
    simp only [← size, resourceLines, List.length_append, List.length_cons] at *
    omega
  have node := blockNode?_sections headerLines codeLines enough
  have unmarked : (titleLine "Header" ++ (header ++ (titleLine "Code" ++ code))).take 3 =
      ['H', 'e', 'a'] := rfl
  have unfinished : Cursor.finished
      ⟨titleLine "Header" ++ (header ++ (titleLine "Code" ++ code)), 0⟩ = false := rfl
  simp [Yaml.parse?, allowed, unified, started, unmarked, unfinished, size, node, endsDocument,
    endsAfter, Cursor.atEnd]

end Resource

theorem sections?_resourceLines {remarks header code : List Char}
    {headers codes : List (String × String)} (remarkLines : EntryLines [] remarks)
    (headerLines : EntryLines headers header) (codeLines : EntryLines codes code)
    (someHeader : headers ≠ []) (someCode : codes ≠ []) :
    (Yaml.parse? (String.ofList (resourceLines remarks header code))).bind sections? =
      some (headers.reverse, codes.reverse) := by
  obtain ⟨first, headers, rfl⟩ := List.exists_cons_of_ne_nil someHeader
  obtain ⟨second, codes, rfl⟩ := List.exists_cons_of_ne_nil someCode
  rw [parse?_resourceLines remarkLines headerLines codeLines]
  simp [sections?, Document.record?, Document.members?, Yaml.members?, Document.namedRecord?,
    Document.distinct, Document.Record.withDefault, section?_sectionNode, List.lookup]

end Templates

end Waveguide
