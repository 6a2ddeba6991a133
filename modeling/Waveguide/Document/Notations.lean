import Waveguide.Document
import Waveguide.Json
import Waveguide.Yaml.Scalar

/-!
JSON and YAML as documents. JSON is strict about the kind of a value; in YAML a plain scalar is
whatever the field that reads it wants, an empty one also an empty list or record.
-/

namespace Waveguide

namespace Json

def isNull : Json → Bool
  | null => true
  | _ => false

def text? : Json → Option String
  | string text => some text
  | _ => none

/-- An alternative is named by a string, or by the only member of an object, with a null value. -/
def choice? : Json → Option String
  | string text => some text
  | object [(name, null)] => some name
  | _ => none

def flag? : Json → Option Bool
  | bool value => some value
  | _ => none

def count? : Json → Option Nat
  | number (.integer false digits) => some digits
  | _ => none

def figure? : Json → Option Figure
  | number value => some (.finite value.value)
  | _ => none

def items? : Json → Option (List Json)
  | array items => some items
  | _ => none

def members? : Json → Option (List (String × Json))
  | object members => some members
  | _ => none

instance : Document Json where
  isNull := isNull
  text? := text?
  choice? := choice?
  flag? := flag?
  count? := count?
  figure? := figure?
  denoted? := figure?
  items? := items?
  members? := members?

end Json

namespace Yaml

def plain? : Yaml → Option String
  | plain text => some text
  | _ => none

def text? : Yaml → Option String
  | plain text | quoted text => some text
  | _ => none

def items? : Yaml → Option (List Yaml)
  | sequence items => some items
  | plain "" => some []
  | _ => none

def members? : Yaml → Option (List (String × Yaml))
  | mapping entries => some entries
  | plain "" => some []
  | _ => none

instance : Document Yaml where
  isNull node := (plain? node).any isNullText
  text? := text?
  choice? := text?
  flag? node := (plain? node).bind boolean?
  count? node := (plain? node).bind fun text => count? text.toList
  figure? node := (plain? node).bind fun text => figure? text.toList
  denoted? node := (plain? node).bind denoted?
  items? := items?
  members? := members?

end Yaml

end Waveguide
