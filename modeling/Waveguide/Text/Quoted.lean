import Waveguide.Text.Shapeless

/-!
Texts in quotes, as they stand in messages: quotes, backslashes and characters without a shape of
their own are escaped.
-/

namespace Waveguide.Text

def escape (c : Char) : List Char :=
  if c = '"' || c = '\\' || c = '\x27' then ['\\', c]
  else if c = '\n' then ['\\', 'n']
  else if c = '\r' then ['\\', 'r']
  else if c = '\t' then ['\\', 't']
  else if c = '\x00' then ['\\', '0']
  else if isShapeless c then ['\\', 'u', '\x7b'] ++ Nat.toDigits 16 c.toNat ++ ['\x7d']
  else [c]

def quoted (text : String) : String :=
  String.ofList ('"' :: text.toList.flatMap escape ++ ['"'])

end Waveguide.Text
