import Waveguide.Json

/-!
Reading JSON texts. Numbers have no leading zeros or plus sign, control characters in strings must
be escaped, and nothing but white space may follow the value. How deep values may be nested is not
limited.
-/

namespace Waveguide.Json

def isSpace (c : Char) : Bool := c = ' ' || c = '\n' || c = '\r' || c = '\t'

def skipSpace (text : List Char) : List Char := text.dropWhile isSpace

def hexValue? (c : Char) : Option Nat :=
  if '0' ≤ c && c ≤ '9' then some (c.toNat - 48)
  else if 'a' ≤ c && c ≤ 'f' then some (c.toNat - 87)
  else if 'A' ≤ c && c ≤ 'F' then some (c.toNat - 55)
  else none

def hexNumber? (digits : List Char) : Option Nat :=
  digits.foldl (fun value c => do some (16 * (← value) + (← hexValue? c))) (some 0)

def shortEscape? : Char → Option Char
  | '"' => some '"'
  | '\\' => some '\\'
  | '/' => some '/'
  | 'b' => some '\x08'
  | 'f' => some '\x0c'
  | 'n' => some '\n'
  | 'r' => some '\r'
  | 't' => some '\t'
  | _ => none

/-- What a string has held so far, last character first; nothing once half a pair stood alone. -/
structure Spelling where
  text : Option (List Char)
  half : Option Nat

namespace Spelling

def start : Spelling := ⟨some [], none⟩

def broken : Spelling := ⟨none, none⟩

def push (spelling : Spelling) (c : Char) : Spelling :=
  if spelling.half.isSome then broken else { spelling with text := spelling.text.map (c :: ·) }

def pushUnit (spelling : Spelling) (code : Nat) : Spelling :=
  if 0xd800 ≤ code ∧ code < 0xdc00 then
    if spelling.half.isSome then broken else { spelling with half := some code }
  else if 0xdc00 ≤ code ∧ code < 0xe000 then
    match spelling.half with
    | none => broken
    | some high =>
        let c := Char.ofNat (0x10000 + (high - 0xd800) * 0x400 + (code - 0xdc00))
        ⟨spelling.text.map (c :: ·), none⟩
  else spelling.push (Char.ofNat code)

def finish (spelling : Spelling) : Json :=
  match spelling.half, spelling.text with
  | none, some text => string (String.ofList text.reverse)
  | _, _ => brokenString

end Spelling

def readString (spelling : Spelling) : List Char → Option (Json × List Char)
  | [] => none
  | '"' :: rest => some (spelling.finish, rest)
  | '\\' :: 'u' :: a :: b :: c :: d :: rest => do
      let code ← hexNumber? [a, b, c, d]
      readString (spelling.pushUnit code) rest
  | '\\' :: c :: rest => do
      let c ← shortEscape? c
      readString (spelling.push c) rest
  | c :: rest => if c.toNat < 0x20 then none else readString (spelling.push c) rest

def minus : List Char → Bool × List Char
  | '-' :: rest => (true, rest)
  | rest => (false, rest)

def wholePart? : List Char → Option (List Char × List Char)
  | '0' :: rest => some (['0'], rest)
  | text =>
      let (digits, rest) := Decimal.leadingDigits text
      if digits.isEmpty then none else some (digits, rest)

def readFraction? (negative : Bool) (digits : Nat) : List Char → Option (Number × List Char)
  | '.' :: rest => do
      let (fraction, rest) := Decimal.leadingDigits rest
      if fraction.isEmpty then none
      let (exponent, rest) ← Decimal.exponent? rest
      let value := ⟨negative, Decimal.ofDigits digits fraction, exponent - fraction.length⟩
      some (.decimal value, rest)
  | 'e' :: rest => do
      let (exponent, rest) ← Decimal.exponent? ('e' :: rest)
      some (.decimal ⟨negative, digits, exponent⟩, rest)
  | 'E' :: rest => do
      let (exponent, rest) ← Decimal.exponent? ('E' :: rest)
      some (.decimal ⟨negative, digits, exponent⟩, rest)
  | rest => some (.integer negative digits, rest)

def readNumber? (text : List Char) : Option (Number × List Char) := do
  let (negative, text) := minus text
  let (whole, rest) ← wholePart? text
  readFraction? negative (Decimal.ofDigits 0 whole) rest

mutual

/-- A value and the text after it. The depth bounds the nesting and the number of parts. -/
def readValue? (depth : Nat) (text : List Char) : Option (Json × List Char) :=
  match depth with
  | 0 => none
  | depth + 1 =>
      match skipSpace text with
      | 'n' :: 'u' :: 'l' :: 'l' :: rest => some (null, rest)
      | 't' :: 'r' :: 'u' :: 'e' :: rest => some (bool true, rest)
      | 'f' :: 'a' :: 'l' :: 's' :: 'e' :: rest => some (bool false, rest)
      | '"' :: rest => readString .start rest
      | '[' :: rest =>
          match skipSpace rest with
          | ']' :: rest => some (array [], rest)
          | rest => do
              let (items, rest) ← readItems? depth rest
              some (array items, rest)
      | '\x7b' :: rest =>
          match skipSpace rest with
          | '\x7d' :: rest => some (object [], rest)
          | rest => do
              let (members, rest) ← readMembers? depth rest
              some (object members, rest)
      | rest => do
          let (value, rest) ← readNumber? rest
          some (number value, rest)

def readItems? (depth : Nat) (text : List Char) : Option (List Json × List Char) :=
  match depth with
  | 0 => none
  | depth + 1 => do
      let (item, rest) ← readValue? depth text
      match skipSpace rest with
      | ']' :: rest => some ([item], rest)
      | ',' :: rest =>
          let (items, rest) ← readItems? depth rest
          some (item :: items, rest)
      | _ => none

def readMembers? (depth : Nat) (text : List Char) : Option (List (String × Json) × List Char) :=
  match depth with
  | 0 => none
  | depth + 1 =>
      match skipSpace text with
      | '"' :: rest => do
          let (string name, rest) ← readString .start rest | none
          let ':' :: rest := skipSpace rest | none
          let (value, rest) ← readValue? depth rest
          match skipSpace rest with
          | '\x7d' :: rest => some ([(name, value)], rest)
          | ',' :: rest =>
              let (members, rest) ← readMembers? depth rest
              some ((name, value) :: members, rest)
          | _ => none
      | _ => none

end

def parse? (text : String) : Option Json := do
  let chars := text.toList
  let (value, rest) ← readValue? (chars.length + 1) chars
  if (skipSpace rest).isEmpty then some value else none

end Waveguide.Json
