import Waveguide.Failure
import Waveguide.Text.Blank

/-!
The version gate. A version is a sequence of numbers between points; descriptions are accepted when
their first number is the supported one.
-/

namespace Waveguide.Version

def current : String := "3.0"

/-- A part of a version: digits after an optional plus sign, below 2 ^ 32. -/
def part? (text : List Char) : Option Nat :=
  let digits := match text with
    | '+' :: rest => rest
    | rest => rest
  if digits.isEmpty || !digits.all Char.isDigit then none
  else
    let value := Decimal.ofDigits 0 digits
    if value < UInt32.size then some value else none

def parts? (version : String) : Option (List Nat) :=
  (Text.splitAt '.' (Text.trim version.toList)).mapM part?

variable {K : Type}

def parse (version : String) : Except (Failure K) (List Nat) :=
  match parts? version with
  | some parts => .ok parts
  | none => .error (.malformedVersion version)

/-- Accepts the supported version itself and every version that shares its first number. -/
def check (found supported : String) : Except (Failure K) Unit := do
  let foundParts ← parse found
  let supportedParts ← parse supported
  if Text.trim found.toList = supported.toList ∨ foundParts.head? = supportedParts.head? then
    .ok ()
  else .error (.unsupportedVersion found supported)

end Waveguide.Version
