import Waveguide.Decimal

/-!
JSON values. An object keeps its members in the order and number in which they were written.
-/

namespace Waveguide

/-- A number as it was written: digits alone, or with a point or an exponent. -/
inductive Json.Number where
  | integer (negative : Bool) (digits : Nat)
  | decimal (value : Decimal)
  deriving DecidableEq

def Json.Number.value : Json.Number → Decimal
  | .integer negative digits => ⟨negative, digits, 0⟩
  | .decimal value => value

inductive Json where
  | null
  | bool (value : Bool)
  | number (value : Json.Number)
  | string (text : String)
  /-- A string that names half of a surrogate pair: well formed, but no text. -/
  | brokenString
  | array (items : List Json)
  | object (members : List (String × Json))

namespace Json

def member? (name : String) : Json → Option Json
  | object members => members.lookup name
  | _ => none

end Json

end Waveguide
