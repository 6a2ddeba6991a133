import Waveguide.Failure
import Waveguide.Text.Blank

/-!
Text templates. A template is text with places for values between double braces: `args[0]` is the
first value given, and a whole number stands for itself. Comments between a brace and a hash are
dropped. Values are inserted as they are.
-/

namespace Waveguide

inductive Slot (K : Type) where
  | text (text : String)
  | integer (value : Int)
  | number (value : K)

/-- A number stands with a point even if it is whole. -/
def numberText {K : Type} [Numeral K] (value : K) : String :=
  let text := Numeral.text value
  if text.toList.all fun c => c.isDigit || c = '-' then text ++ ".0" else text

def Slot.render {K : Type} [Numeral K] : Slot K → String
  | .text value => value
  | .integer value => Int.repr value
  | .number value => numberText value

namespace Template

inductive Expression where
  | integer (value : Nat)
  | name (name : String)
  | item (list : Expression) (place : Nat)
  deriving DecidableEq

inductive Piece where
  | text (text : List Char)
  | expression (expression : Expression)

def isSpace (c : Char) : Bool := c = ' ' || c = '\n' || c = '\r' || c = '\t' || c = '\x0c'

def skipSpace (text : List Char) : List Char := text.dropWhile isSpace

/-- A final line break of a template does not belong to its text. -/
def dropLastBreak (source : List Char) : List Char :=
  match source.reverse with
  | '\n' :: '\r' :: rest => rest.reverse
  | '\n' :: rest => rest.reverse
  | _ => source

def isNameStart (c : Char) : Bool := c.isAlpha || c = '_'

def isNamePart (c : Char) : Bool := isNameStart c || c.isDigit

def items? (fuel : Nat) (list : Expression) (text : List Char) : Option Expression :=
  match fuel with
  | 0 => none
  | fuel + 1 =>
      match skipSpace text with
      | [] => some list
      | '[' :: rest =>
          let (digits, rest) := Decimal.leadingDigits (skipSpace rest)
          match digits, skipSpace rest with
          | _ :: _, ']' :: rest => items? fuel (.item list (Decimal.ofDigits 0 digits)) rest
          | _, _ => none
      | _ => none

def expression? (text : List Char) : Option Expression :=
  match skipSpace text with
  | [] => none
  | c :: rest =>
      if isNameStart c then
        let name := String.ofList (c :: rest.takeWhile isNamePart)
        items? (rest.length + 1) (.name name) (rest.dropWhile isNamePart)
      else
        let (digits, after) := Decimal.leadingDigits (c :: rest)
        if digits.isEmpty || !(skipSpace after).isEmpty then none
        else some (.integer (Decimal.ofDigits 0 digits))

def upTo? (first second : Char) : List Char → Option (List Char × List Char)
  | [] => none
  | [_] => none
  | c :: d :: rest =>
      if c = first ∧ d = second then some ([], rest)
      else (upTo? first second (d :: rest)).map fun (inner, after) => (c :: inner, after)

/-- Whether the inside of a mark starts or ends with a dash, which drops the blanks beyond it. -/
structure Trims where
  before : Bool
  after : Bool

def openDash : List Char → Bool × List Char
  | '-' :: rest => (true, rest)
  | rest => (false, rest)

def undash (inner : List Char) : Trims × List Char :=
  let (before, inner) := openDash inner
  let (after, reversed) := openDash inner.reverse
  (⟨before, after⟩, reversed.reverse)

def addText (text : List Char) (pieces : List Piece) : List Piece :=
  if text.isEmpty then pieces else .text text :: pieces

/-- The pieces of a template. `text` is the text read since the last mark, last character first. -/
def pieces? (fuel : Nat) (text : List Char) (source : List Char) : Option (List Piece) :=
  match fuel with
  | 0 => none
  | fuel + 1 =>
      match source with
      | [] => some (addText text.reverse [])
      | '\x7b' :: '\x7b' :: rest => do
          let (inner, rest) ← upTo? '\x7d' '\x7d' rest
          let (trims, inner) := undash inner
          let expression ← expression? inner
          let pieces ← pieces? fuel [] (if trims.after then Text.trimStart rest else rest)
          let before := if trims.before then Text.trimEnd text.reverse else text.reverse
          some (addText before (.expression expression :: pieces))
      | '\x7b' :: '#' :: rest => do
          let (inner, rest) ← upTo? '#' '\x7d' rest
          let (trims, _) := undash inner
          let pieces ← pieces? fuel [] (if trims.after then Text.trimStart rest else rest)
          some (addText (if trims.before then Text.trimEnd text.reverse else text.reverse) pieces)
      | '\x7b' :: '%' :: _ => none
      | c :: rest => pieces? fuel (c :: text) rest

def parse? (source : String) : Option (List Piece) :=
  let source := dropLastBreak source.toList
  pieces? (source.length + 1) [] source

variable {K : Type} [Numeral K]

def value? (slots : List (Slot K)) : Expression → Option (Slot K ⊕ List (Slot K))
  | .integer value => some (.inl (.integer value))
  | .name name => if name = "args" then some (.inr slots) else none
  | .item list place =>
      match value? slots list with
      | some (.inr slots) => slots[place]?.map .inl
      | _ => none

def Piece.render? (slots : List (Slot K)) : Piece → Option String
  | .text chars => some (String.ofList chars)
  | .expression inner =>
      match value? slots inner with
      | some (.inl slot) => some slot.render
      | _ => none

def render (source : String) (slots : List (Slot K)) : Except RenderFault String :=
  match parse? source with
  | none => .error .malformed
  | some pieces =>
      match pieces.mapM (Piece.render? slots) with
      | some texts => .ok (String.join texts)
      | none => .error .undefined

end Template

end Waveguide
