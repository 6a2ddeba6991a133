import Waveguide.Decimal

/-!
YAML documents: block and flow collections of plain and quoted scalars. A plain scalar is kept as it
stands, since only the field that reads it decides whether it is a number or a word.
-/

namespace Waveguide

inductive Yaml where
  | plain (text : String)
  | quoted (text : String)
  | sequence (items : List Yaml)
  | mapping (entries : List (String × Yaml))

end Waveguide
