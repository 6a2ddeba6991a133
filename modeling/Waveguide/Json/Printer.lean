import Waveguide.Json

/-!
Writing JSON texts, on one line and without spaces.
-/

namespace Waveguide.Json

def hexDigit (value : Nat) : Char :=
  if value < 10 then Char.ofNat (48 + value) else Char.ofNat (87 + value)

/-- The quote, the backslash and control characters are escaped, all else stands for itself. -/
def escape (c : Char) : List Char :=
  if c = '"' then ['\\', '"']
  else if c = '\\' then ['\\', '\\']
  else if c = '\n' then ['\\', 'n']
  else if c = '\r' then ['\\', 'r']
  else if c = '\t' then ['\\', 't']
  else if c = '\x08' then ['\\', 'b']
  else if c = '\x0c' then ['\\', 'f']
  else if c.toNat < 0x20 then
    ['\\', 'u', '0', '0', hexDigit (c.toNat / 16), hexDigit (c.toNat % 16)]
  else [c]

def quote (text : String) : List Char := '"' :: text.toList.flatMap escape ++ ['"']

/-- A number that has a fraction is written with a point and no exponent, any other decimal with an
exponent, so that each reads back as the same digits and power of ten. -/
def Number.render : Number → List Char
  | .integer negative digits => (Decimal.positional ⟨negative, digits, 0⟩).toList
  | .decimal value =>
      if value.exponent < 0 then value.positional.toList
      else
        (Decimal.positional ⟨value.negative, value.digits, 0⟩).toList ++
          'e' :: Nat.toDigits 10 value.exponent.toNat

mutual

def renderChars : Json → List Char
  | null => ['n', 'u', 'l', 'l']
  | bool true => ['t', 'r', 'u', 'e']
  | bool false => ['f', 'a', 'l', 's', 'e']
  | number value => value.render
  | string text => quote text
  | brokenString => ['"', '\\', 'u', 'd', '8', '0', '0', '"']
  | array items => '[' :: renderItems items ++ [']']
  | object members => '\x7b' :: renderMembers members ++ ['\x7d']

def renderItems : List Json → List Char
  | [] => []
  | [item] => renderChars item
  | item :: items => renderChars item ++ ',' :: renderItems items

def renderMembers : List (String × Json) → List Char
  | [] => []
  | [(name, value)] => quote name ++ ':' :: renderChars value
  | (name, value) :: members =>
      quote name ++ ':' :: renderChars value ++ ',' :: renderMembers members

end

def render (value : Json) : String := String.ofList (renderChars value)

end Waveguide.Json
