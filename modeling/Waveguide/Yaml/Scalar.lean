import Waveguide.Yaml

/-!
What plain scalars mean: null, booleans, whole numbers and figures.
-/

namespace Waveguide.Yaml

def isNullText (text : String) : Bool :=
  text == "" || text == "~" || text == "null" || text == "Null" || text == "NULL"

def boolean? (text : String) : Option Bool :=
  if text == "true" || text == "True" || text == "TRUE" then some true
  else if text == "false" || text == "False" || text == "FALSE" then some false
  else none

def dropPlus : List Char → List Char
  | '+' :: rest => rest
  | text => text

def startsSigned : List Char → Bool
  | '+' :: _ | '-' :: _ => true
  | _ => false

def figure? (text : List Char) : Option Figure :=
  let unsigned := dropPlus text
  let named (names : List String) (text : List Char) := names.contains (String.ofList text)
  if startsSigned unsigned && startsSigned text && unsigned.length < text.length then none
  else if named [".inf", ".Inf", ".INF"] unsigned then some (.infinite false)
  else if named ["-.inf", "-.Inf", "-.INF"] text then some (.infinite true)
  else if named [".nan", ".NaN", ".NAN"] text then some .undefined
  else (Decimal.read? unsigned).map .finite

def isZeroLed (text : List Char) : Bool :=
  let digits := match text with
    | '-' :: rest | '+' :: rest => rest
    | rest => rest
  match digits with
  | '0' :: rest => !rest.isEmpty && rest.all Char.isDigit
  | _ => false

def digitValue? (base : Nat) (c : Char) : Option Nat :=
  let value :=
    if c.isDigit then c.toNat - 48
    else if 'a' ≤ c && c ≤ 'z' then c.toNat - 87
    else if 'A' ≤ c && c ≤ 'Z' then c.toNat - 55
    else base
  if value < base then some value else none

def digits? (base : Nat) (text : List Char) : Option Nat :=
  if text.isEmpty then none
  else text.foldl (fun value c => do some (base * (← value) + (← digitValue? base c))) (some 0)

def count? (text : List Char) : Option Nat :=
  match dropPlus text with
  | '0' :: 'x' :: rest => digits? 16 rest
  | '0' :: 'o' :: rest => digits? 8 rest
  | '0' :: 'b' :: rest => digits? 2 rest
  | rest => if isZeroLed text then none else digits? 10 rest

def negativeCount? (text : List Char) : Option Nat :=
  match text with
  | '-' :: '0' :: 'x' :: rest => digits? 16 rest
  | '-' :: '0' :: 'o' :: rest => digits? 8 rest
  | '-' :: '0' :: 'b' :: rest => digits? 2 rest
  | '-' :: rest => if isZeroLed text then none else digits? 10 rest
  | _ => none

/-- The number a scalar denotes where any kind of value may stand. Whole numbers may be written in
another base. Those that do not fit 64 bits denote nothing, unless they do not fit 128 bits either
and are written in base ten: then they are read like fractions. -/
def denoted? (text : String) : Option Figure :=
  let chars := text.toList
  if isNullText text || (boolean? text).isSome then none
  else
    match count? chars, negativeCount? chars with
    | some size, _ =>
        if size < UInt64.size then some (.finite ⟨false, size, 0⟩)
        else if size < 1 <<< 128 then none
        else figure? chars
    | none, some size =>
        if size ≤ 1 <<< 63 then some (.finite ⟨size ≠ 0, size, 0⟩)
        else if size ≤ 1 <<< 127 then none
        else figure? chars
    | none, none => if isZeroLed chars then none else figure? chars

end Waveguide.Yaml
