import Waveguide.Proofs.Reading

/-!
How the built-in templates are filled in. A template in which the places for values are shortened to
a dollar sign and a digit is filled in by putting the values in their stead. The built-in resource
is accepted, and each of its templates can be filled in with as many values as its name takes.
-/

namespace Waveguide

namespace Template

open Templates

def placeDigits : List Char := "0123456789".toList

def placeName (digit : Char) : List Char := [' ', 'a', 'r', 'g', 's', '[', digit, ']', ' ']

theorem expression?_placeName {digit : Char} (named : digit ∈ placeDigits) :
    expression? (placeName digit) = some (.item (.name "args") (Decimal.digitValue digit)) := by
  have each : placeDigits.map (fun digit => expression? (placeName digit)) =
      placeDigits.map fun digit => some (.item (.name "args") (Decimal.digitValue digit)) := by
    decide
  exact List.map_inj_left.mp each digit named

theorem undash_placeName (digit : Char) :
    undash (placeName digit) = (⟨false, false⟩, placeName digit) :=
  rfl

theorem upTo?_placeName {digit : Char} (named : digit ∈ placeDigits) (rest : List Char) :
    upTo? '\x7d' '\x7d' (placeName digit ++ '\x7d' :: '\x7d' :: rest) =
      some (placeName digit, rest) := by
  have unmarked : digit ≠ '\x7d' := by
    rintro rfl
    exact absurd named (by decide)
  simp [placeName, upTo?, unmarked]

theorem place_append (digit : Char) (rest : List Char) :
    place digit ++ rest =
      '\x7b' :: '\x7b' :: (placeName digit ++ '\x7d' :: '\x7d' :: rest) :=
  rfl

theorem pieces?_place (fuel : Nat) (text : List Char) {digit : Char} (named : digit ∈ placeDigits)
    (rest : List Char) :
    pieces? (fuel + 1) text (place digit ++ rest) =
      (pieces? fuel [] rest).map fun pieces =>
        addText text.reverse
          (.expression (.item (.name "args") (Decimal.digitValue digit)) :: pieces) := by
  rw [place_append, pieces?, upTo?_placeName named]
  simp only [Option.bind_eq_bind, Option.bind_some, undash_placeName,
    expression?_placeName named, Bool.false_eq_true, if_false]
  cases pieces? fuel [] rest <;> rfl

theorem pieces?_char (fuel : Nat) (text : List Char) {c : Char} (plain : c ≠ '\x7b')
    (rest : List Char) : pieces? (fuel + 1) text (c :: rest) = pieces? fuel (c :: text) rest := by
  rw [pieces?]
  all_goals
    intro _ same
    exact absurd same plain

section Fill

variable {K : Type} [Numeral K]

def fits (count : Nat) : List Char → Bool
  | '$' :: digit :: rest =>
      placeDigits.contains digit && Decimal.digitValue digit < count && fits count rest
  | c :: rest => c ≠ '\x7b' && c ≠ '\n' && fits count rest
  | [] => true

def fill (slots : List (Slot K)) : List Char → List Char
  | '$' :: digit :: rest =>
      ((slots[Decimal.digitValue digit]?.map Slot.render).getD "").toList ++ fill slots rest
  | c :: rest => c :: fill slots rest
  | [] => []

theorem fill_append (slots : List (Slot K)) (text rest : List Char) (plain : '$' ∉ text) :
    fill slots (text ++ rest) = text ++ fill slots rest := by
  induction text with
  | nil => rfl
  | cons c text ih =>
      simp only [List.mem_cons, not_or] at plain
      rw [List.cons_append, fill, ih plain.2, List.cons_append]
      rintro _ _ rfl
      exact absurd rfl plain.1

theorem addText_render (slots : List (Slot K)) (text : List Char) {pieces : List Piece}
    {texts : List String} (rendered : pieces.mapM (Piece.render? slots) = some texts) :
    ∃ all, (addText text pieces).mapM (Piece.render? slots) = some all ∧
      (String.join all).toList = text ++ (String.join texts).toList := by
  cases text with
  | nil => exact ⟨texts, rendered, rfl⟩
  | cons c text =>
      refine ⟨String.ofList (c :: text) :: texts, ?_, ?_⟩
      · simp [addText, Piece.render?, rendered]
      · simp [String.toList_join]

/-- The pieces of a written-out template, rendered and joined to the text before them. -/
theorem pieces?_expandSlots (slots : List (Slot K)) (short : List Char) :
    fits slots.length short = true → ∀ text fuel, (expandSlots short).length < fuel →
      ∃ pieces texts, pieces? fuel text (expandSlots short) = some pieces ∧
        pieces.mapM (Piece.render? slots) = some texts ∧
        (String.join texts).toList = text.reverse ++ fill slots short := by
  fun_induction fits slots.length short with
  | case1 digit rest ih =>
      intro fit text fuel enough
      simp only [Bool.and_eq_true, decide_eq_true_eq, List.contains_iff_mem] at fit
      obtain ⟨⟨named, given⟩, fit⟩ := fit
      obtain ⟨fuel, rfl⟩ := Nat.exists_eq_add_of_le' (show 1 ≤ fuel by omega)
      have shorter : (expandSlots rest).length < fuel := by
        simp only [expandSlots, List.length_append, place, List.length_cons] at enough
        omega
      obtain ⟨pieces, texts, read, rendered, joined⟩ := ih fit [] fuel shorter
      have value : Piece.render? slots
          (.expression (.item (.name "args") (Decimal.digitValue digit))) =
            some (slots[Decimal.digitValue digit].render) := by
        simp [Piece.render?, value?, given]
      have place : (Piece.expression (.item (.name "args") (Decimal.digitValue digit)) ::
          pieces).mapM (Piece.render? slots) =
            some (slots[Decimal.digitValue digit].render :: texts) := by
        simp [value, rendered]
      obtain ⟨all, rendered, whole⟩ := addText_render slots text.reverse place
      refine ⟨_, all, ?_, rendered, ?_⟩
      · rw [expandSlots, pieces?_place fuel text named, read, Option.map_some]
      · simp only [List.reverse_nil, List.nil_append] at joined
        simp [whole, fill, given, joined, String.join_cons]
  | case2 c rest special ih =>
      intro fit text fuel enough
      simp only [Bool.and_eq_true, decide_eq_true_eq] at fit
      obtain ⟨⟨unbraced, -⟩, fit⟩ := fit
      rw [expandSlots.eq_2 _ _ special] at enough ⊢
      obtain ⟨fuel, rfl⟩ := Nat.exists_eq_add_of_le' (show 1 ≤ fuel by omega)
      obtain ⟨pieces, texts, read, rendered, joined⟩ :=
        ih fit (c :: text) fuel (by simpa using enough)
      refine ⟨pieces, texts, ?_, rendered, ?_⟩
      · rw [pieces?_char fuel text unbraced, read]
      · simp [joined, fill]
  | case3 =>
      intro _ text fuel enough
      obtain ⟨fuel, rfl⟩ := Nat.exists_eq_add_of_le' enough
      obtain ⟨texts, rendered, joined⟩ := @addText_render K _ slots text.reverse [] [] rfl
      exact ⟨_, texts, by simp [expandSlots, pieces?], rendered, by simpa [fill] using joined⟩

theorem unbroken_of_fits {count : Nat} {short : List Char} (fit : fits count short = true) :
    '\n' ∉ expandSlots short := by
  fun_induction fits count short with
  | case1 digit rest ih =>
      simp only [Bool.and_eq_true, decide_eq_true_eq, List.contains_iff_mem] at fit
      have named : digit ≠ '\n' := by
        rintro rfl
        exact absurd fit.1.1 (by decide)
      simp [expandSlots, place, ih fit.2, named.symm]
  | case2 c rest special ih =>
      simp only [Bool.and_eq_true, decide_eq_true_eq] at fit
      rw [expandSlots.eq_2 _ _ special]
      simp [ih fit.2, Ne.symm fit.1.2]
  | case3 => simp [expandSlots]

theorem dropLastBreak_unbroken {source : List Char} (unbroken : '\n' ∉ source) :
    dropLastBreak source = source := by
  rw [dropLastBreak]
  split
  · next same => exact absurd (List.mem_reverse.mp (same ▸ List.mem_cons_self)) unbroken
  · next same => exact absurd (List.mem_reverse.mp (same ▸ List.mem_cons_self)) unbroken
  · rfl

theorem render_expandSlots (slots : List (Slot K)) {short : List Char}
    (fit : fits slots.length short = true) :
    render (String.ofList (expandSlots short)) slots =
      .ok (String.ofList (fill slots short)) := by
  obtain ⟨pieces, texts, read, rendered, joined⟩ :=
    pieces?_expandSlots slots short fit [] ((expandSlots short).length + 1) (Nat.lt_succ_self _)
  have parsed : parse? (String.ofList (expandSlots short)) = some pieces := by
    rw [parse?, String.toList_ofList, dropLastBreak_unbroken (unbroken_of_fits fit), read]
  rw [render, parsed]
  simp only [rendered, Except.ok.injEq]
  rw [← String.toList_inj, joined, String.toList_ofList, List.reverse_nil, List.nil_append]

end Fill

end Template

namespace Templates

open Yaml

theorem EntryLines.append {entries others : List (String × String)} {lines more : List Char}
    (held : EntryLines entries lines) (further : EntryLines others more) :
    EntryLines (entries ++ others) (lines ++ more) := by
  induction held with
  | nil => exact further
  | blank _ ih => exact .blank ih
  | remark shown _ ih => simpa using EntryLines.remark shown ih
  | entry isEntry _ ih => simpa using EntryLines.entry isEntry ih

theorem EntryLines.group {entries : List (String × String)}
    (isEntry : ∀ entry ∈ entries, IsEntry entry) :
    EntryLines entries (entries.flatMap entryLine) := by
  induction entries with
  | nil => exact .nil
  | cons entry entries ih =>
      rw [List.forall_mem_cons] at isEntry
      exact .entry isEntry.1 (ih isEntry.2)

theorem EntryLines.groups {groups : List (List (String × String))}
    (isEntry : ∀ entry ∈ groups.flatten, IsEntry entry) :
    EntryLines groups.flatten (groupLines groups) := by
  induction groups with
  | nil => exact .nil
  | cons first groups ih =>
      simp only [List.flatten_cons, List.mem_append] at isEntry
      have held : EntryLines first (first.flatMap entryLine) :=
        .group fun entry member => isEntry entry (.inl member)
      have others := ih fun entry member => isEntry entry (.inr member)
      cases groups with
      | nil => simpa [groupLines] using held
      | cons second groups =>
          have parted := held.append (.blank others)
          simpa [groupLines, List.intercalate] using parted

def plainEntry (entry : String × String) : Bool :=
  entry.1.toList ≠ [] && entry.1.toList.length ≤ 1024 && entry.1.toList.all wordChar &&
    entry.2.toList.all fun c => printable c && c ≠ '\x27'

theorem plain_expandSlots {short : List Char}
    (plain : ∀ c ∈ short, printable c = true ∧ c ≠ '\x27') :
    ∀ c ∈ expandSlots short, printable c = true ∧ c ≠ '\x27' := by
  fun_induction expandSlots short with
  | case1 digit rest ih =>
      simp only [List.mem_cons, forall_eq_or_imp] at plain
      have marks : ∀ c ∈ place digit, c = digit ∨ c ∈ place '0' := by simp [place]
      have shown : ((place '0').all fun c => printable c && c ≠ '\x27') = true := by decide
      simp only [List.all_eq_true, Bool.and_eq_true, decide_eq_true_eq] at shown
      simp only [List.mem_append]
      rintro c (member | member)
      · rcases marks c member with rfl | mark
        · exact plain.2.1
        · exact shown c mark
      · exact ih plain.2.2 c member
  | case2 c rest special ih =>
      simp only [List.mem_cons, forall_eq_or_imp] at plain ⊢
      exact ⟨plain.1, ih plain.2⟩
  | case3 => simp

theorem expanded_isEntry {entry : String × String} (plain : plainEntry entry = true) :
    IsEntry (expanded entry) := by
  simp only [plainEntry, Bool.and_eq_true, decide_eq_true_eq, List.all_eq_true] at plain
  obtain ⟨⟨⟨nonempty, length⟩, word⟩, text⟩ := plain
  refine ⟨⟨nonempty, word, length⟩, ?_⟩
  rw [expanded, String.toList_ofList]
  exact plain_expandSlots text

def builtinEntries : List (String × String) :=
  builtinHeader.reverse ++ builtinCode.flatten.reverse

theorem builtinEntries_sound : ∀ entry ∈ builtinEntries, plainEntry entry = true ∧
    (Template.slots.lookup entry.1).any fun count => Template.fits count entry.2.toList := by
  decide +kernel

theorem builtin_single :
    builtinCode.flatten.find? (fun entry => (builtinHeader.reverse.lookup entry.1).isSome) =
      none := by
  decide +kernel

theorem builtin_complete : ∀ slot ∈ Template.slots, (builtinEntries.lookup slot.1).isSome := by
  decide +kernel

def builtinTemplates : Templates := ⟨builtinEntries.map expanded⟩

theorem EntryLines.remarks {remarks : List String}
    (shown : ∀ remark ∈ remarks, remark.toList = [] ∨
      remark.toList.head? = some '#' ∧ remark.toList.all printable = true) :
    EntryLines [] (remarks.flatMap fun remark => remark.toList ++ ['\n']) := by
  induction remarks with
  | nil => exact .nil
  | cons remark remarks ih =>
      have others := ih fun other member => shown other (by simp [member])
      rw [List.flatMap_cons, List.append_assoc]
      rcases shown remark (by simp) with blank | ⟨marked, printed⟩
      · rw [blank]
        exact .blank others
      · obtain ⟨rest, spelled⟩ := List.head?_eq_some_iff.mp marked
        rw [spelled, List.all_eq_true] at printed
        rw [spelled]
        exact .remark (fun c member => printed c (by simp [member])) others

theorem sections?_builtinText :
    (Yaml.parse? builtinText).bind sections? =
      some ((builtinHeader.map expanded).reverse, (builtinCode.flatten.map expanded).reverse) := by
  have isEntry : ∀ entry ∈ builtinEntries, IsEntry (expanded entry) := fun entry member =>
    expanded_isEntry (builtinEntries_sound entry member).1
  simp only [builtinEntries, List.mem_append, List.mem_reverse] at isEntry
  have remarkLines : EntryLines [] (builtinRemarks.flatMap fun remark => remark.toList ++ ['\n']) :=
    .remarks (by decide +kernel)
  have headerLines : EntryLines (builtinHeader.map expanded)
      (groupLines [builtinHeader.map expanded] ++ ['\n']) := by
    have held : EntryLines (builtinHeader.map expanded)
        (groupLines [builtinHeader.map expanded]) := by
      have lines := EntryLines.group (List.forall_mem_map.mpr fun entry member =>
        isEntry entry (.inl member))
      simpa [groupLines] using lines
    simpa using held.append (.blank .nil)
  have codeLines : EntryLines (builtinCode.flatten.map expanded)
      (groupLines (builtinCode.map (List.map expanded))) := by
    rw [List.map_flatten]
    refine EntryLines.groups fun entry member => ?_
    rw [← List.map_flatten, List.mem_map] at member
    obtain ⟨entry, member, rfl⟩ := member
    exact isEntry entry (.inr member)
  have read := sections?_resourceLines remarkLines headerLines codeLines (by simp [builtinHeader])
    (by simp [builtinCode])
  rw [← read]
  simp [builtinText, resourceLines]

theorem lookup_expanded (entries : List (String × String)) (name : String) :
    (entries.map expanded).lookup name =
      (entries.lookup name).map fun text => String.ofList (expandSlots text.toList) := by
  induction entries with
  | nil => rfl
  | cons entry entries ih =>
      simp only [List.map_cons, List.lookup, expanded]
      split <;> simp_all

theorem builtin_accepted {K : Type} : (builtin : Except (Failure K) Templates) =
    .ok builtinTemplates := by
  have sources : (builtinHeader.map expanded).reverse ++
      (builtinCode.flatten.map expanded).reverse = builtinEntries.map expanded := by
    simp [builtinEntries]
  have single : (builtinCode.flatten.map expanded).find?
      (fun entry => ((builtinHeader.map expanded).reverse.lookup entry.1).isSome) = none := by
    rw [List.find?_map, ← List.map_reverse]
    simp only [Function.comp_def, lookup_expanded, Option.isSome_map]
    exact congrArg (Option.map expanded) builtin_single
  have complete : missing (builtinEntries.map expanded) = [] := by
    simp only [missing, List.filter_eq_nil_iff, List.mem_map]
    rintro _ ⟨slot, member, rfl⟩
    simpa [lookup_expanded, Option.isNone_iff_eq_none, ← Option.isSome_iff_ne_none] using
      builtin_complete slot member
  rw [builtin, ofYaml, ofDocument, sections?_builtinText]
  simp only [check, List.reverse_reverse, single, sources, complete]
  rfl

section Render

variable {K : Type} [Numeral K]

theorem builtinTemplates_render {name text : String} {slots : List (Slot K)}
    (declared : Template.slots.lookup name = some slots.length)
    (entry : builtinEntries.lookup name = some text) :
    builtinTemplates.render name slots =
      .ok (String.ofList (Template.fill slots text.toList)) := by
  have member : (name, text) ∈ builtinEntries := by
    obtain ⟨before, after, split, -⟩ := List.lookup_eq_some_iff.mp entry
    simp [split]
  have fit := (builtinEntries_sound _ member).2
  simp only [declared, Option.any_some] at fit
  have source : builtinTemplates.sources.lookup name =
      some (String.ofList (expandSlots text.toList)) := by
    simp [builtinTemplates, lookup_expanded, entry]
  rw [render, renderWith, declared]
  simp [source, Template.render_expandSlots slots fit]

theorem builtinTemplates_renders {name : String} {slots : List (Slot K)}
    (declared : Template.slots.lookup name = some slots.length) :
    ∃ text, builtinTemplates.render name slots = .ok text := by
  have member : (name, slots.length) ∈ Template.slots := by
    obtain ⟨before, after, split, -⟩ := List.lookup_eq_some_iff.mp declared
    simp [split]
  obtain ⟨text, entry⟩ := Option.isSome_iff_exists.mp (builtin_complete _ member)
  exact ⟨_, builtinTemplates_render declared entry⟩

end Render

end Templates

end Waveguide
