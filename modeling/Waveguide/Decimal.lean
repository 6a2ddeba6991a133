/-!
Decimal numbers as texts write them: a sign, a whole number of digits and a power of ten.
-/

namespace Waveguide

structure Decimal where
  negative : Bool
  digits : Nat
  exponent : Int
  deriving DecidableEq

inductive Figure where
  | finite (value : Decimal)
  | infinite (negative : Bool)
  | undefined
  deriving DecidableEq

namespace Decimal

def digitValue (c : Char) : Nat := c.toNat - 48

def ofDigits (start : Nat) (digits : List Char) : Nat :=
  digits.foldl (fun value c => 10 * value + digitValue c) start

def leadingDigits (text : List Char) : List Char × List Char :=
  (text.takeWhile Char.isDigit, text.dropWhile Char.isDigit)

/-- The exponent part of a number, if the text starts with one, and the text after it.
Nothing when the mark of an exponent is not followed by digits. -/
def exponent? : List Char → Option (Int × List Char)
  | 'e' :: rest | 'E' :: rest =>
      let (negative, rest) := match rest with
        | '-' :: rest => (true, rest)
        | '+' :: rest => (false, rest)
        | rest => (false, rest)
      let (digits, rest) := leadingDigits rest
      if digits.isEmpty then none
      else
        let size : Int := ofDigits 0 digits
        some (if negative then -size else size, rest)
  | text => some (0, text)

def read? (text : List Char) : Option Decimal := do
  let (negative, text) := match text with
    | '-' :: rest => (true, rest)
    | '+' :: rest => (false, rest)
    | rest => (false, rest)
  let (whole, rest) := leadingDigits text
  let (fraction, rest) := match rest with
    | '.' :: rest => leadingDigits rest
    | rest => ([], rest)
  if whole.isEmpty && fraction.isEmpty then none
  let (exponent, rest) ← exponent? rest
  if rest.isEmpty then
    some ⟨negative, ofDigits (ofDigits 0 whole) fraction, exponent - fraction.length⟩
  else none

/-- Digits written to the left of the point for every power of ten, never with an exponent. -/
def positional (value : Decimal) : String :=
  let sign := if value.negative then "-" else ""
  let digits := Nat.toDigits 10 value.digits
  let text := match value.exponent with
    | .ofNat places =>
        if value.digits = 0 then ['0'] else digits ++ List.replicate places '0'
    | .negSucc places =>
        let places := places + 1
        let padded := List.replicate (places + 1 - digits.length) '0' ++ digits
        let whole := padded.length - places
        padded.take whole ++ '.' :: padded.drop whole
  sign ++ String.ofList text

def dropZeros : Nat → Nat → Int → Nat × Int
  | 0, digits, exponent => (digits, exponent)
  | count + 1, digits, exponent =>
      if digits ≠ 0 ∧ digits % 10 = 0 then dropZeros count (digits / 10) (exponent + 1)
      else (digits, exponent)

def size (digits : Nat) : Nat := (Nat.toDigits 10 digits).length

end Decimal

end Waveguide
