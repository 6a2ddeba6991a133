import Mathlib
import Waveguide.Proofs.Points
import Waveguide.Version

/-!
The version gate. A version is read if and only if it is written as numbers between points, with
blanks around them at most, and whether it is accepted is up to the first number alone.
-/

namespace Waveguide

namespace Text

theorem splitAt_eq (separator : Char) (text : List Char) :
    splitAt separator text = text.splitOn separator := by
  induction text with
  | nil => rfl
  | cons c rest ih =>
      rw [splitAt, ih, List.splitOn_cons_eq_if_modifyHead]
      cases parts : rest.splitOn separator with
      | nil => exact absurd parts (List.splitOn_ne_nil _ _)
      | cons part parts => simp only [beq_iff_eq, List.modifyHead_cons]

theorem trim_split (text : List Char) : ∃ before after, text = before ++ trim text ++ after ∧
    (∀ c ∈ before, isBlank c = true) ∧ ∀ c ∈ after, isBlank c = true := by
  have front := List.takeWhile_append_dropWhile (p := isBlank) (l := text)
  have back := List.rdropWhile_append_rtakeWhile (p := isBlank) (l := trimStart text)
  refine ⟨text.takeWhile isBlank, (trimStart text).rtakeWhile isBlank, ?_, ?_, ?_⟩
  · rw [List.append_assoc]
    change text = _ ++ ((trimStart text).rdropWhile isBlank ++ _)
    rw [back]
    exact front.symm
  · exact fun c member => List.mem_takeWhile_imp member
  · exact fun c member => List.mem_rtakeWhile_imp member

theorem trim_padded {before body after : List Char} (front : ∀ c ∈ before, isBlank c = true)
    (back : ∀ c ∈ after, isBlank c = true) (solid : ∀ c ∈ body, isBlank c = false)
    (nonempty : body ≠ []) : trim (before ++ body ++ after) = body := by
  have start : trimStart (before ++ body ++ after) = body ++ after := by
    obtain ⟨c, rest, rfl⟩ := List.exists_cons_of_ne_nil nonempty
    rw [trimStart, List.append_assoc, List.dropWhile_append_of_pos front, List.cons_append,
      List.dropWhile_cons_of_neg (by simp [solid])]
  have final : trimEnd (body ++ after) = body := by
    obtain ⟨rest, c, rfl⟩ := (List.eq_nil_or_concat' body).resolve_left nonempty
    rw [trimEnd, List.reverse_append, List.dropWhile_append_of_pos (by simpa using back),
      List.reverse_append, List.reverse_singleton, List.singleton_append,
      List.dropWhile_cons_of_neg (by simp [solid])]
    simp
  rw [trim, start, final]

end Text

namespace Version

structure Digits (digits : List Char) (value : Nat) : Prop where
  nonempty : digits ≠ []
  decimal : ∀ c ∈ digits, c.isDigit = true
  denote : Nat.ofDigitChars 10 digits 0 = value
  small : value < 2 ^ 32

def Part (part : List Char) (value : Nat) : Prop :=
  ∃ digits, (part = digits ∨ part = '+' :: digits) ∧ Digits digits value

structure Reads (version : String) (numbers : List Nat) : Prop where
  nonempty : numbers ≠ []
  written : ∃ before parts after,
    version.toList = before ++ ['.'].intercalate parts ++ after ∧
      (∀ c ∈ before, Text.isBlank c = true) ∧ (∀ c ∈ after, Text.isBlank c = true) ∧
      List.Forall₂ Part parts numbers

def Opens (version : String) (first : Nat) : Prop := ∃ rest, Reads version (first :: rest)

def WellFormed (version : String) : Prop := ∃ first, Opens version first

section Parts

theorem digit_bounds {c : Char} (digit : c.isDigit = true) : 48 ≤ c.toNat ∧ c.toNat ≤ 57 := by
  simp only [Char.isDigit, Bool.and_eq_true, decide_eq_true_eq, ge_iff_le,
    UInt32.le_iff_toNat_le] at digit
  exact digit

theorem isBlank_digit {c : Char} (digit : c.isDigit = true) : Text.isBlank c = false := by
  have bounds := digit_bounds digit
  simp [Text.isBlank]
  omega

def unsigned : List Char → List Char
  | '+' :: digits => digits
  | digits => digits

theorem unsigned_of_ne {part : List Char} (plain : ∀ digits, part ≠ '+' :: digits) :
    unsigned part = part := by
  unfold unsigned
  split
  · exact absurd rfl (plain _)
  · rfl

theorem part_iff {part : List Char} {value : Nat} :
    Part part value ↔ Digits (unsigned part) value := by
  constructor
  · rintro ⟨digits, rfl | rfl, known⟩
    · rw [unsigned_of_ne]
      · exact known
      · rintro rest rfl
        exact absurd (known.decimal '+' List.mem_cons_self) (by decide)
    · exact known
  · intro known
    by_cases signed : ∃ digits, part = '+' :: digits
    · obtain ⟨digits, rfl⟩ := signed
      exact ⟨digits, Or.inr rfl, known⟩
    · rw [unsigned_of_ne (not_exists.mp signed)] at known
      exact ⟨part, Or.inl rfl, known⟩

theorem part?_eq_some_iff {part : List Char} {value : Nat} :
    part? part = some value ↔ Part part value := by
  have reading : part? part = if (unsigned part).isEmpty || !(unsigned part).all Char.isDigit then
      none
    else if Nat.ofDigitChars 10 (unsigned part) 0 < 2 ^ 32 then
      some (Nat.ofDigitChars 10 (unsigned part) 0)
    else none := rfl
  rw [reading, part_iff]
  generalize unsigned part = digits
  constructor
  · intro found
    split at found
    · contradiction
    · rename_i numeric
      simp only [Bool.or_eq_true, Bool.not_eq_true', not_or, Bool.not_eq_false,
        List.isEmpty_iff, List.all_eq_true] at numeric
      split at found
      · rename_i small
        obtain rfl := Option.some.inj found
        exact ⟨numeric.1, numeric.2, rfl, small⟩
      · contradiction
  · rintro ⟨nonempty, decimal, rfl, small⟩
    have numeric : ¬ (digits.isEmpty || !digits.all Char.isDigit) = true := by
      simp [nonempty, List.all_eq_true.mpr decimal]
    rw [if_neg numeric, if_pos small]

theorem Part.chars {part : List Char} {value : Nat} (isPart : Part part value) :
    part ≠ [] ∧ ∀ c ∈ part, Text.isBlank c = false ∧ c ≠ '.' := by
  obtain ⟨digits, shape, known⟩ := isPart
  have plain : ∀ c ∈ digits, Text.isBlank c = false ∧ c ≠ '.' := by
    intro c member
    have digit := known.decimal c member
    refine ⟨isBlank_digit digit, ?_⟩
    rintro rfl
    exact absurd digit (by decide)
  rcases shape with rfl | rfl
  · exact ⟨known.nonempty, plain⟩
  · exact ⟨List.cons_ne_nil _ _, List.forall_mem_cons.mpr ⟨by decide, plain⟩⟩

theorem mapM_part?_iff {parts : List (List Char)} {numbers : List Nat} :
    parts.mapM part? = some numbers ↔ List.Forall₂ Part parts numbers := by
  induction parts generalizing numbers with
  | nil => simp [eq_comm]
  | cons part parts ih =>
      simp only [List.mapM_cons, Option.bind_eq_bind, Option.bind_eq_some_iff, part?_eq_some_iff,
        ih, List.forall₂_cons_left_iff]
      constructor
      · rintro ⟨first, here, others, rest, result⟩
        exact ⟨first, others, here, rest, (Option.some.inj result).symm⟩
      · rintro ⟨first, others, here, rest, rfl⟩
        exact ⟨first, here, others, rest, rfl⟩

theorem intercalate_chars {parts : List (List Char)} {numbers : List Nat}
    (isParts : List.Forall₂ Part parts numbers) (nonempty : numbers ≠ []) :
    ['.'].intercalate parts ≠ [] ∧ ∀ c ∈ ['.'].intercalate parts, Text.isBlank c = false := by
  induction isParts with
  | nil => contradiction
  | @cons part value parts numbers isPart isParts ih =>
      have first := isPart.chars
      cases isParts with
      | nil =>
          rw [List.intercalate_singleton]
          exact ⟨first.1, fun c member => (first.2 c member).1⟩
      | cons next others =>
          have rest := ih (List.cons_ne_nil _ _)
          rw [List.intercalate_cons_cons]
          refine ⟨by simp [first.1], fun c member => ?_⟩
          simp only [List.mem_append, List.mem_singleton] at member
          rcases member with (here | rfl) | later
          · exact (first.2 c here).1
          · decide
          · exact rest.2 c later

theorem parts?_eq_some_iff {version : String} {numbers : List Nat} :
    parts? version = some numbers ↔ Reads version numbers := by
  rw [parts?, Text.splitAt_eq, mapM_part?_iff]
  constructor
  · intro isParts
    obtain ⟨before, after, text, front, back⟩ := Text.trim_split version.toList
    refine ⟨?_, before, _, after, ?_, front, back, isParts⟩
    · rintro rfl
      exact absurd (List.forall₂_nil_right_iff.mp isParts) (List.splitOn_ne_nil _ _)
    · rw [List.intercalate_splitOn]
      exact text
  · rintro ⟨nonempty, before, parts, after, text, front, back, isParts⟩
    obtain ⟨present, solid⟩ := intercalate_chars isParts nonempty
    have separate : ∀ part ∈ parts, '.' ∉ part := by
      intro part member point
      obtain ⟨index, bound, rfl⟩ := List.mem_iff_getElem.mp member
      have isPart := isParts.get bound (isParts.length_eq ▸ bound)
      exact (isPart.chars.2 '.' point).2 rfl
    have some : parts ≠ [] := by
      rintro rfl
      exact present List.intercalate_nil
    rw [text, Text.trim_padded front back solid present, List.splitOn_intercalate _ separate some]
    exact isParts

theorem Reads.unique {version : String} {numbers others : List Nat}
    (reads : Reads version numbers) (also : Reads version others) : numbers = others := by
  rw [← parts?_eq_some_iff] at reads also
  exact Option.some.inj (reads.symm.trans also)

theorem Reads.trimmed {version other : String} {numbers : List Nat} (reads : Reads version numbers)
    (same : Text.trim version.toList = other.toList) : Reads other numbers := by
  obtain ⟨nonempty, before, parts, after, text, front, back, isParts⟩ := reads
  obtain ⟨present, solid⟩ := intercalate_chars isParts nonempty
  rw [text, Text.trim_padded front back solid present] at same
  exact ⟨nonempty, [], parts, [], by simp [← same], by simp, by simp, isParts⟩

end Parts

section Gate

variable {K : Type} {version found supported : String} {numbers : List Nat}

theorem parse_reads (reads : Reads version numbers) :
    parse (K := K) version = .ok numbers := by
  simp only [parse, parts?_eq_some_iff.mpr reads]

theorem wellFormed_iff : WellFormed version ↔ (parts? version).isSome = true := by
  rw [Option.isSome_iff_exists]
  constructor
  · rintro ⟨first, rest, reads⟩
    exact ⟨first :: rest, parts?_eq_some_iff.mpr reads⟩
  · rintro ⟨numbers, parts⟩
    have reads := parts?_eq_some_iff.mp parts
    obtain ⟨first, rest, rfl⟩ := List.exists_cons_of_ne_nil reads.nonempty
    exact ⟨first, rest, reads⟩

instance : Decidable (WellFormed version) := decidable_of_iff _ wellFormed_iff.symm

theorem parse_malformed (malformed : ¬ WellFormed version) :
    parse (K := K) version = .error (.malformedVersion version) := by
  rw [wellFormed_iff, Bool.not_eq_true, Option.isSome_eq_false_iff, Option.isNone_iff_eq_none]
    at malformed
  simp only [parse, malformed]

theorem Opens.unique {first other : Nat} (opens : Opens version first)
    (also : Opens version other) : first = other := by
  obtain ⟨_, reads⟩ := opens
  obtain ⟨_, same⟩ := also
  exact (List.cons.inj (reads.unique same)).1

theorem Opens.trimmed {first : Nat} (opens : Opens version first)
    (same : Text.trim version.toList = found.toList) : Opens found first := by
  obtain ⟨rest, reads⟩ := opens
  exact ⟨rest, reads.trimmed same⟩

/-- The supported version itself begins with its own number, so the test for it decides nothing. -/
theorem Opens.same {first other : Nat} (opens : Opens found first) (begins : Opens supported other)
    (same : Text.trim found.toList = supported.toList) : first = other :=
  (opens.trimmed same).unique begins

theorem check_opens {first other : Nat} (opens : Opens found first)
    (begins : Opens supported other) :
    check (K := K) found supported =
      if first = other then .ok () else .error (.unsupportedVersion found supported) := by
  have identical := opens.same begins
  obtain ⟨rest, reads⟩ := opens
  obtain ⟨others, also⟩ := begins
  have asked : check (K := K) found supported =
      if Text.trim found.toList = supported.toList ∨ some first = some other then .ok ()
      else .error (.unsupportedVersion found supported) := by
    rw [check, parse_reads reads, parse_reads also]
    rfl
  rw [asked]
  by_cases shared : first = other
  · rw [if_pos shared, if_pos (Or.inr (congrArg some shared))]
  · rw [if_neg shared, if_neg]
    rintro (same | same)
    · exact shared (identical same)
    · exact shared (Option.some.inj same)

theorem check_found (malformed : ¬ WellFormed found) :
    check (K := K) found supported = .error (.malformedVersion found) := by
  rw [check, parse_malformed malformed]
  rfl

theorem check_supported (wellFormed : WellFormed found) (malformed : ¬ WellFormed supported) :
    check (K := K) found supported = .error (.malformedVersion supported) := by
  obtain ⟨_, _, reads⟩ := wellFormed
  rw [check, parse_reads reads, parse_malformed malformed]
  rfl

theorem check_ok_iff {first other : Nat} (opens : Opens found first)
    (begins : Opens supported other) :
    check (K := K) found supported = .ok () ↔ first = other := by
  rw [check_opens opens begins]
  split <;> simp [*]

theorem accepts_equivalence :
    Equivalence fun a b : { version // WellFormed version } => check (K := K) a b = .ok () where
  refl a := by
    obtain ⟨first, opens⟩ := a.2
    exact (check_ok_iff opens opens).mpr rfl
  symm {a b} accepted := by
    obtain ⟨first, opens⟩ := a.2
    obtain ⟨other, begins⟩ := b.2
    exact (check_ok_iff begins opens).mpr ((check_ok_iff opens begins).mp accepted).symm
  trans {a b c} accepted further := by
    obtain ⟨first, opens⟩ := a.2
    obtain ⟨other, begins⟩ := b.2
    obtain ⟨third, starts⟩ := c.2
    exact (check_ok_iff opens starts).mpr
      (((check_ok_iff opens begins).mp accepted).trans ((check_ok_iff begins starts).mp further))

/-- The gate refuses what is malformed, the version of a description first, and otherwise accepts
those versions that begin with the same number, whether they are the same or not. -/
theorem check_decides (found supported : String) :
    (¬ WellFormed found → check (K := K) found supported = .error (.malformedVersion found)) ∧
      (WellFormed found → ¬ WellFormed supported →
        check (K := K) found supported = .error (.malformedVersion supported)) ∧
      (∀ first other, Opens found first → Opens supported other →
        (Text.trim found.toList = supported.toList → first = other) ∧
          check (K := K) found supported =
            if first = other then .ok () else .error (.unsupportedVersion found supported)) ∧
      Equivalence fun a b : { version // WellFormed version } =>
        check (K := K) a b = .ok () :=
  ⟨check_found, check_supported,
    fun _ _ opens begins => ⟨opens.same begins, check_opens opens begins⟩,
    accepts_equivalence⟩

end Gate

theorem spacedVersion_decided :
    Opens "\u2003 +03.7\t" 3 ∧ Opens current 3 ∧ ¬ WellFormed "3..1" ∧ ¬ WellFormed "4294967296" ∧
      check (K := ℚ) "\u2003 +03.7\t" current = .ok () ∧
      check (K := ℚ) "3..1" current = .error (.malformedVersion "3..1") ∧
      check (K := ℚ) current "4294967296" = .error (.malformedVersion "4294967296") := by
  have spaced : Opens "\u2003 +03.7\t" 3 := ⟨[7], parts?_eq_some_iff.mp (by decide +kernel)⟩
  have supported : Opens current 3 := ⟨[0], parts?_eq_some_iff.mp (by decide +kernel)⟩
  have broken : ¬ WellFormed "3..1" := by decide +kernel
  have large : ¬ WellFormed "4294967296" := by decide +kernel
  exact ⟨spaced, supported, broken, large,
    ((check_decides _ _).2.2.1 3 3 spaced supported).2, (check_decides _ _).1 broken,
    (check_decides _ _).2.1 ⟨3, supported⟩ large⟩

end Version

end Waveguide
