import Mathlib
import Waveguide.Json.Parser
import Waveguide.Json.Printer

/-!
What the reader of JSON makes of a printed value: the value itself, whatever text follows. Numbers
come back with the same digits and power of ten, strings with the same characters.
-/

namespace Waveguide

namespace Decimal

theorem ofDigits_eq (start : Nat) (digits : List Char) :
    ofDigits start digits = Nat.ofDigitChars 10 digits start := rfl

@[simp] theorem ofDigits_toDigits (size : Nat) : ofDigits 0 (Nat.toDigits 10 size) = size :=
  Nat.ofDigitChars_ten_toDigits

theorem ofDigits_append (start : Nat) (digits others : List Char) :
    ofDigits start (digits ++ others) = ofDigits (ofDigits start digits) others :=
  List.foldl_append

theorem ofDigits_padded (count size : Nat) :
    ofDigits 0 (List.replicate count '0' ++ Nat.toDigits 10 size) = size := by
  rw [ofDigits_append, ofDigits_eq 0, Nat.ofDigitChars_replicate_zero, Nat.mul_zero,
    ofDigits_toDigits]

theorem isDigit_toDigits (size : Nat) : ∀ c ∈ Nat.toDigits 10 size, c.isDigit = true :=
  fun _ member => Nat.isDigit_of_mem_toDigits (by decide) (by decide) member

theorem isDigit_padded {count size : Nat} :
    ∀ c ∈ List.replicate count '0' ++ Nat.toDigits 10 size, c.isDigit = true := by
  intro c member
  rcases List.mem_append.mp member with zero | digit
  · rw [List.eq_of_mem_replicate zero]
    rfl
  · exact isDigit_toDigits size c digit

theorem leadingDigits_append {digits rest : List Char} (all : ∀ c ∈ digits, c.isDigit = true)
    (stop : ∀ c ∈ rest.head?, c.isDigit = false) :
    leadingDigits (digits ++ rest) = (digits, rest) := by
  have none : rest.takeWhile Char.isDigit = [] ∧ rest.dropWhile Char.isDigit = rest := by
    cases rest with
    | nil => simp
    | cons c rest => simp [stop c rfl]
  rw [leadingDigits, List.takeWhile_append_of_pos all, List.dropWhile_append_of_pos all, none.1,
    none.2, List.append_nil]

structure Whole (digits : List Char) : Prop where
  digit : ∀ c ∈ digits, c.isDigit = true
  start : digits = ['0'] ∨ ∃ c tail, digits = c :: tail ∧ c ≠ '0'

theorem head_toDigits {size : Nat} (positive : 0 < size) :
    ∃ c tail, Nat.toDigits 10 size = c :: tail ∧ c ≠ '0' := by
  induction size using Nat.strong_induction_on with
  | _ size ih =>
      by_cases small : size < 10
      · refine ⟨size.digitChar, [], Nat.toDigits_of_lt_base small, ?_⟩
        rw [ne_eq, Nat.digitChar_eq_zero]
        omega
      · obtain ⟨c, tail, digits, nonzero⟩ := ih (size / 10) (by omega) (by omega)
        refine ⟨c, tail ++ [(size % 10).digitChar], ?_, nonzero⟩
        rw [Nat.toDigits_of_base_le (by decide) (by omega), digits, List.cons_append]

theorem whole_toDigits (size : Nat) : Whole (Nat.toDigits 10 size) := by
  refine ⟨isDigit_toDigits size, ?_⟩
  rcases Nat.eq_zero_or_pos size with rfl | positive
  · exact .inl (Nat.toDigits_zero 10)
  · exact .inr (head_toDigits positive)

def padded (places size : Nat) : List Char :=
  List.replicate (places + 1 - (Nat.toDigits 10 size).length) '0' ++ Nat.toDigits 10 size

theorem length_padded (places size : Nat) :
    (padded places size).length = max (places + 1) (Nat.toDigits 10 size).length := by
  simp only [padded, List.length_append, List.length_replicate]
  omega

theorem whole_padded {places size : Nat} (fraction : 0 < places) :
    Whole ((padded places size).take ((padded places size).length - places)) := by
  refine ⟨fun c member => isDigit_padded c (List.mem_of_mem_take member), ?_⟩
  have length := length_padded places size
  by_cases short : (Nat.toDigits 10 size).length ≤ places
  · -- The padding reaches past the point, where it leaves a single zero.
    obtain ⟨count, zeros⟩ : ∃ count, places + 1 - (Nat.toDigits 10 size).length = count + 1 :=
      ⟨places - (Nat.toDigits 10 size).length, by omega⟩
    have one : (padded places size).length - places = 1 := by omega
    left
    rw [one, padded, zeros]
    rfl
  · have positive : 0 < size := by
      rcases Nat.eq_zero_or_pos size with rfl | positive
      · rw [Nat.toDigits_zero] at short
        simp only [List.length_singleton] at short
        omega
      · exact positive
    obtain ⟨c, tail, digits, nonzero⟩ := head_toDigits positive
    have unpadded : padded places size = c :: tail := by
      rw [padded, Nat.sub_eq_zero_of_le (by omega), digits]
      rfl
    obtain ⟨count, some⟩ : ∃ count, (padded places size).length - places = count + 1 :=
      ⟨(padded places size).length - places - 1, by omega⟩
    right
    exact ⟨c, tail.take count, by rw [some, unpadded, List.take_succ_cons], nonzero⟩

def sign (negative : Bool) : List Char := if negative then ['-'] else []

theorem positional_integer (negative : Bool) (size : Nat) :
    (positional ⟨negative, size, 0⟩).toList = sign negative ++ Nat.toDigits 10 size := by
  have digits : (if size = 0 then ['0'] else Nat.toDigits 10 size ++ List.replicate 0 '0') =
      Nat.toDigits 10 size := by
    split
    · rename_i zero
      rw [zero, Nat.toDigits_zero]
    · exact List.append_nil _
  rw [← digits]
  cases negative <;> simp [positional, sign]

theorem positional_fraction (negative : Bool) (size places : Nat) :
    ∃ whole fraction,
      (positional ⟨negative, size, .negSucc places⟩).toList =
        sign negative ++ whole ++ '.' :: fraction ∧
      Whole whole ∧ (∀ c ∈ fraction, c.isDigit = true) ∧ fraction.length = places + 1 ∧
      ofDigits (ofDigits 0 whole) fraction = size := by
  let digits := padded (places + 1) size
  let before := digits.length - (places + 1)
  have length : digits.length = max (places + 1 + 1) (Nat.toDigits 10 size).length :=
    length_padded (places + 1) size
  refine ⟨digits.take before, digits.drop before, ?_, whole_padded (Nat.succ_pos places),
    fun c member => isDigit_padded c (List.mem_of_mem_drop member), ?_, ?_⟩
  · cases negative <;> simp [positional, sign, padded, digits, before]
  · rw [List.length_drop]
    omega
  · rw [← ofDigits_append, List.take_append_drop]
    exact ofDigits_padded _ size

end Decimal

namespace Json

open Decimal (sign Whole)

/-- No character with which a number before it could go on. -/
def Ended (rest : List Char) : Prop :=
  ∀ c ∈ rest.head?, c.isDigit = false ∧ c ≠ '.' ∧ c ≠ 'e' ∧ c ≠ 'E'

theorem minus_sign {negative : Bool} {digits : List Char} (whole : Whole digits)
    (rest : List Char) : minus (sign negative ++ digits ++ rest) = (negative, digits ++ rest) := by
  cases negative with
  | true => rfl
  | false =>
      obtain ⟨c, tail, rfl⟩ : ∃ c tail, digits = c :: tail := by
        rcases whole.start with rfl | ⟨c, tail, rfl, -⟩
        · exact ⟨'0', [], rfl⟩
        · exact ⟨c, tail, rfl⟩
      have digit := whole.digit c List.mem_cons_self
      have unsigned : c ≠ '-' := by
        rintro rfl
        exact absurd digit (by decide)
      simp [sign, minus, unsigned]

theorem wholePart?_append {digits rest : List Char} (whole : Whole digits)
    (stop : ∀ c ∈ rest.head?, c.isDigit = false) :
    wholePart? (digits ++ rest) = some (digits, rest) := by
  rcases whole.start with rfl | ⟨c, tail, rfl, nonzero⟩
  · rfl
  · have leading := Decimal.leadingDigits_append whole.digit stop
    rw [List.cons_append] at leading ⊢
    simp [wholePart?, nonzero, leading]

theorem readNumber?_append {negative : Bool} {digits rest : List Char} (whole : Whole digits)
    (stop : ∀ c ∈ rest.head?, c.isDigit = false) :
    readNumber? (sign negative ++ digits ++ rest) =
      readFraction? negative (Decimal.ofDigits 0 digits) rest := by
  simp only [readNumber?, minus_sign whole, wholePart?_append whole stop, Option.bind_eq_bind,
    Option.bind_some]

theorem exponent?_ended {rest : List Char} (ended : Ended rest) :
    Decimal.exponent? rest = some (0, rest) := by
  cases rest with
  | nil => rfl
  | cons c rest =>
      obtain ⟨-, -, small, capital⟩ := ended c rfl
      simp [Decimal.exponent?, small, capital]

theorem exponent?_toDigits {size : Nat} {rest : List Char} (ended : Ended rest) :
    Decimal.exponent? ('e' :: (Nat.toDigits 10 size ++ rest)) = some ((size : Int), rest) := by
  have leading := Decimal.leadingDigits_append (Decimal.isDigit_toDigits size)
    fun c head => (ended c head).1
  obtain ⟨c, tail, digits⟩ := List.exists_cons_of_ne_nil (Nat.toDigits_ne_nil (n := size) (b := 10))
  have digit := Decimal.isDigit_toDigits size c (digits ▸ List.mem_cons_self)
  have unsigned : c ≠ '-' ∧ c ≠ '+' := by
    constructor <;> rintro rfl <;> exact absurd digit (by decide)
  have size := Decimal.ofDigits_toDigits size
  rw [digits] at leading size ⊢
  rw [List.cons_append] at leading ⊢
  simp [Decimal.exponent?, unsigned, leading, size]

theorem readFraction?_ended {negative : Bool} {digits : Nat} {rest : List Char}
    (ended : Ended rest) :
    readFraction? negative digits rest = some (.integer negative digits, rest) := by
  cases rest with
  | nil => rfl
  | cons c rest =>
      obtain ⟨-, point, small, capital⟩ := ended c rfl
      simp [readFraction?, point, small, capital]

theorem readFraction?_point {negative : Bool} {digits : Nat} {fraction rest : List Char}
    (all : ∀ c ∈ fraction, c.isDigit = true) (nonempty : fraction ≠ []) (ended : Ended rest) :
    readFraction? negative digits ('.' :: (fraction ++ rest)) =
      some (.decimal ⟨negative, Decimal.ofDigits digits fraction, -fraction.length⟩, rest) := by
  have leading := Decimal.leadingDigits_append all fun c head => (ended c head).1
  simp [readFraction?, leading, nonempty, exponent?_ended ended]

theorem readFraction?_exponent {negative : Bool} {digits size : Nat} {rest : List Char}
    (ended : Ended rest) :
    readFraction? negative digits ('e' :: (Nat.toDigits 10 size ++ rest)) =
      some (.decimal ⟨negative, digits, size⟩, rest) := by
  simp [readFraction?, exponent?_toDigits ended]

theorem readNumber?_render (value : Number) {rest : List Char} (ended : Ended rest) :
    readNumber? (value.render ++ rest) = some (value, rest) := by
  rcases value with ⟨negative, digits⟩ | ⟨negative, digits, exponent⟩
  · rw [Number.render, Decimal.positional_integer,
      readNumber?_append (Decimal.whole_toDigits digits) fun c head => (ended c head).1,
      readFraction?_ended ended, Decimal.ofDigits_toDigits]
  · cases exponent with
    | ofNat size =>
        rw [Number.render, if_neg (by simp), Decimal.positional_integer, List.append_assoc,
          readNumber?_append (Decimal.whole_toDigits digits) (by simp), Decimal.ofDigits_toDigits]
        exact readFraction?_exponent ended
    | negSucc places =>
        obtain ⟨whole, fraction, text, leading, all, length, value⟩ :=
          Decimal.positional_fraction negative digits places
        have nonempty : fraction ≠ [] := List.ne_nil_of_length_eq_add_one length
        rw [Number.render, if_pos (Int.negSucc_lt_zero places), text, List.append_assoc,
          readNumber?_append leading (by simp), List.cons_append,
          readFraction?_point all nonempty ended, value, length]
        rfl

theorem hexNumber?_control {c : Char} (control : c.toNat < 0x20) :
    hexNumber? ['0', '0', hexDigit (c.toNat / 16), hexDigit (c.toNat % 16)] = some c.toNat := by
  have all : ∀ code < 0x20,
      hexNumber? ['0', '0', hexDigit (code / 16), hexDigit (code % 16)] = some code := by decide
  exact all c.toNat control

theorem pushUnit_char (spelling : Spelling) {c : Char} (control : c.toNat < 0x20) :
    spelling.pushUnit c.toNat = spelling.push c := by
  rw [Spelling.pushUnit, if_neg (by omega), if_neg (by omega), Char.ofNat_toNat]

theorem readString_escape (spelling : Spelling) (c : Char) (rest : List Char) :
    readString spelling (escape c ++ rest) = readString (spelling.push c) rest := by
  unfold escape
  split_ifs with quote backslash newline carriage tab backspace feed control
  · rw [quote]; rfl
  · rw [backslash]; rfl
  · rw [newline]; rfl
  · rw [carriage]; rfl
  · rw [tab]; rfl
  · rw [backspace]; rfl
  · rw [feed]; rfl
  · simp [readString, hexNumber?_control control, pushUnit_char spelling control]
  · simp [readString, backslash, control]

theorem readString_flatMap (text : List Char) (before rest : List Char) :
    readString ⟨some before, none⟩ (text.flatMap escape ++ '"' :: rest) =
      some (string (String.ofList (before.reverse ++ text)), rest) := by
  induction text generalizing before with
  | nil => simp [readString, Spelling.finish]
  | cons c text ih =>
      rw [List.flatMap_cons, List.append_assoc, readString_escape]
      simpa [Spelling.push] using ih (c :: before)

theorem readString_quote (text : String) (rest : List Char) :
    readString .start (text.toList.flatMap escape ++ '"' :: rest) = some (string text, rest) := by
  rw [Spelling.start, readString_flatMap, List.reverse_nil, List.nil_append, String.ofList_toList]

theorem skipSpace_cons {c : Char} (solid : isSpace c = false) (rest : List Char) :
    skipSpace (c :: rest) = c :: rest := by
  rw [skipSpace, List.dropWhile_cons_of_neg (by simp [solid])]

theorem render_number (value : Number) :
    ∃ c tail, value.render = c :: tail ∧ (c = '-' ∨ c.isDigit = true) := by
  have start (negative : Bool) {digits : List Char} (whole : Whole digits) (rest : List Char) :
      ∃ c tail, sign negative ++ digits ++ rest = c :: tail ∧ (c = '-' ∨ c.isDigit = true) := by
    cases negative with
    | true => exact ⟨'-', digits ++ rest, rfl, .inl rfl⟩
    | false =>
        have digit := whole.digit
        rcases whole.start with rfl | ⟨c, tail, rfl, -⟩
        · exact ⟨'0', rest, rfl, .inr rfl⟩
        · exact ⟨c, tail ++ rest, rfl, .inr (digit c List.mem_cons_self)⟩
  rcases value with ⟨negative, digits⟩ | ⟨negative, digits, size | places⟩
  · rw [Number.render, Decimal.positional_integer, ← List.append_nil (sign negative ++ _)]
    exact start negative (Decimal.whole_toDigits digits) []
  · rw [Number.render, if_neg (by simp), Decimal.positional_integer]
    exact start negative (Decimal.whole_toDigits digits) _
  · obtain ⟨whole, fraction, text, leading, -⟩ :=
      Decimal.positional_fraction negative digits places
    rw [Number.render, if_pos (Int.negSucc_lt_zero places), text]
    exact start negative leading _

theorem renderChars_cons (value : Json) :
    ∃ c tail, renderChars value = c :: tail ∧ isSpace c = false ∧ c ≠ ']' := by
  cases value with
  | null => exact ⟨_, _, rfl, by decide, by decide⟩
  | bool value => cases value <;> exact ⟨_, _, rfl, by decide, by decide⟩
  | number value =>
      obtain ⟨c, tail, text, start⟩ := render_number value
      refine ⟨c, tail, text, ?_, ?_⟩
      · simp only [isSpace, Bool.or_eq_false_iff, decide_eq_false_iff_not]
        refine ⟨⟨⟨?_, ?_⟩, ?_⟩, ?_⟩ <;> rintro rfl <;> revert start <;> decide
      · rintro rfl
        revert start
        decide
  | string text => exact ⟨_, _, rfl, by decide, by decide⟩
  | brokenString => exact ⟨_, _, rfl, by decide, by decide⟩
  | array items => exact ⟨_, _, rfl, by decide, by decide⟩
  | object members => exact ⟨_, _, rfl, by decide, by decide⟩

theorem readValue?_number (value : Number) (depth : Nat) {rest : List Char} (ended : Ended rest) :
    readValue? (depth + 1) (value.render ++ rest) = some (number value, rest) := by
  obtain ⟨c, tail, text, start⟩ := render_number value
  have read := readNumber?_render value ended
  have solid : skipSpace (value.render ++ rest) = value.render ++ rest := by
    obtain ⟨first, others, chars, solid, -⟩ := renderChars_cons (number value)
    rw [renderChars] at chars
    rw [chars, List.cons_append, skipSpace_cons solid]
  rw [readValue?, solid]
  rw [text, List.cons_append] at read ⊢
  split <;> simp_all

theorem ended_cons {c : Char} (mark : c = ',' ∨ c = ']' ∨ c = '\x7d') (rest : List Char) :
    Ended (c :: rest) := by
  intro first head
  obtain rfl : c = first := Option.some.inj head
  rcases mark with rfl | rfl | rfl <;> decide

theorem renderItems_cons (item : Json) (items : List Json) :
    ∃ c tail, renderItems (item :: items) = c :: tail ∧ isSpace c = false ∧ c ≠ ']' := by
  obtain ⟨c, tail, text, solid, unclosed⟩ := renderChars_cons item
  cases items with
  | nil => exact ⟨c, tail, text, solid, unclosed⟩
  | cons next items =>
      refine ⟨c, tail ++ ',' :: renderItems (next :: items), ?_, solid, unclosed⟩
      rw [renderItems, text, List.cons_append]
      simp

theorem renderMembers_cons (name : String) (value : Json) (members : List (String × Json)) :
    ∃ tail, renderMembers ((name, value) :: members) = '"' :: tail := by
  cases members <;> exact ⟨_, rfl⟩

mutual

/-- Reading goes on for as many characters as are left, so a depth above their number suffices. -/
theorem readValue?_render : ∀ (value : Json) {depth : Nat} (rest : List Char),
    (renderChars value).length < depth → Ended rest →
    readValue? depth (renderChars value ++ rest) = some (value, rest)
  | value, 0, _, deep, _ => absurd deep (Nat.not_lt_zero _)
  | null, depth + 1, rest, _, _ => by simp [renderChars, readValue?, skipSpace, isSpace]
  | bool true, depth + 1, rest, _, _ => by simp [renderChars, readValue?, skipSpace, isSpace]
  | bool false, depth + 1, rest, _, _ => by simp [renderChars, readValue?, skipSpace, isSpace]
  | number value, depth + 1, rest, _, ended => readValue?_number value depth ended
  | string text, depth + 1, rest, _, _ => by
      simp [renderChars, quote, readValue?, skipSpace, isSpace, readString_quote]
  | brokenString, depth + 1, rest, _, _ => rfl
  | array [], depth + 1, rest, _, _ => rfl
  | array (item :: items), depth + 1, rest, deep, _ => by
      have enough : (renderItems (item :: items)).length + 1 < depth := by
        simp only [renderChars, List.length_append, List.length_cons, List.length_nil] at deep
        omega
      have read := readItems?_render item items rest enough
      obtain ⟨c, tail, text, solid, unclosed⟩ := renderItems_cons item items
      rw [text, List.cons_append] at read
      simp [renderChars, text, readValue?, skipSpace_cons (c := '[') rfl, skipSpace_cons solid,
        unclosed, read]
  | object [], depth + 1, rest, _, _ => rfl
  | object ((name, value) :: members), depth + 1, rest, deep, _ => by
      have enough : (renderMembers ((name, value) :: members)).length + 1 < depth := by
        simp only [renderChars, List.length_append, List.length_cons, List.length_nil] at deep
        omega
      have read := readMembers?_render name value members rest enough
      obtain ⟨tail, text⟩ := renderMembers_cons name value members
      rw [text, List.cons_append] at read
      simp [renderChars, text, readValue?, skipSpace_cons (c := '\x7b') rfl,
        skipSpace_cons (c := '"') rfl, read]

theorem readItems?_render : ∀ (item : Json) (items : List Json) {depth : Nat} (rest : List Char),
    (renderItems (item :: items)).length + 1 < depth →
    readItems? depth (renderItems (item :: items) ++ ']' :: rest) = some (item :: items, rest)
  | _, _, 0, _, deep => absurd deep (Nat.not_lt_zero _)
  | item, [], depth + 1, rest, deep => by
      have enough : (renderChars item).length < depth := by
        simp only [renderItems] at deep
        omega
      have read := readValue?_render item _ enough (ended_cons (.inr (.inl rfl)) rest)
      simp [renderItems, readItems?, read, skipSpace_cons (c := ']') rfl]
  | item, next :: items, depth + 1, rest, deep => by
      have enough : (renderChars item).length < depth ∧
          (renderItems (next :: items)).length + 1 < depth := by
        rw [renderItems, List.length_append, List.length_cons] at deep
        · omega
        · simp
      have read := readValue?_render item _ enough.1
        (ended_cons (.inl rfl) (renderItems (next :: items) ++ ']' :: rest))
      have others := readItems?_render next items rest enough.2
      simp [renderItems, readItems?, read, skipSpace_cons (c := ',') rfl, others]

theorem readMembers?_render : ∀ (name : String) (value : Json) (members : List (String × Json))
    {depth : Nat} (rest : List Char),
    (renderMembers ((name, value) :: members)).length + 1 < depth →
    readMembers? depth (renderMembers ((name, value) :: members) ++ '\x7d' :: rest) =
      some ((name, value) :: members, rest)
  | _, _, _, 0, _, deep => absurd deep (Nat.not_lt_zero _)
  | name, value, [], depth + 1, rest, deep => by
      have enough : (renderChars value).length < depth := by
        rw [renderMembers, List.length_append, List.length_cons] at deep
        omega
      have read := readValue?_render value _ enough (ended_cons (.inr (.inr rfl)) rest)
      simp [renderMembers, quote, readMembers?, skipSpace_cons (c := '"') rfl, readString_quote,
        skipSpace_cons (c := ':') rfl, read, skipSpace_cons (c := '\x7d') rfl]
  | name, value, (next, nextValue) :: members, depth + 1, rest, deep => by
      have enough : (renderChars value).length < depth ∧
          (renderMembers ((next, nextValue) :: members)).length + 1 < depth := by
        rw [renderMembers, List.length_append, List.length_append, List.length_cons,
          List.length_cons] at deep
        · omega
        · simp
      have read := readValue?_render value _ enough.1
        (ended_cons (.inl rfl) (renderMembers ((next, nextValue) :: members) ++ '\x7d' :: rest))
      have others := readMembers?_render next nextValue members rest enough.2
      simp [renderMembers, quote, readMembers?, skipSpace_cons (c := '"') rfl, readString_quote,
        skipSpace_cons (c := ':') rfl, read, skipSpace_cons (c := ',') rfl, others]

end

theorem parse?_render (value : Json) : parse? value.render = some value := by
  have read := readValue?_render value [] (Nat.lt_succ_self _) nofun
  rw [List.append_nil] at read
  simp only [parse?, render, String.toList_ofList, read, Option.bind_eq_bind, Option.bind_some]
  rfl

end Json

end Waveguide
