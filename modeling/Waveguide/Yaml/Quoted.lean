import Waveguide.Yaml.Cursor

/-!
Quoted scalars. A line break inside one is folded: the spaces around it are dropped, a single break
becomes a space, and each further break is kept.
-/

namespace Waveguide.Yaml

structure Gap where
  blanks : List Char
  breaks : List Char
  /-- The first line break was escaped and leaves nothing behind. -/
  joined : Bool

namespace Gap

def none : Gap := ⟨[], [], false⟩

def crossed (gap : Gap) : Bool := gap.joined || !gap.breaks.isEmpty

def fold (gap : Gap) : List Char :=
  if gap.joined then gap.breaks
  else match gap.breaks.reverse with
    | [] => gap.blanks
    | ['\n'] => [' ']
    | '\n' :: breaks => breaks.reverse
    | _ => gap.breaks

def addBlank (gap : Gap) (c : Char) : Gap :=
  if gap.crossed then gap else { gap with blanks := c :: gap.blanks }

def addBreak (gap : Gap) (c : Char) : Gap := { gap with blanks := [], breaks := c :: gap.breaks }

end Gap

structure Scan where
  column : Nat
  text : List Char
  gap : Gap

namespace Scan

def start (column : Nat) : Scan := ⟨column, [], Gap.none⟩

def blank (scan : Scan) (c : Char) : Scan :=
  { scan with column := scan.column + 1, gap := scan.gap.addBlank c }

def lineBreak (scan : Scan) (c : Char) : Scan :=
  { scan with column := 0, gap := scan.gap.addBreak c }

def push (scan : Scan) (c : Char) (width : Nat) : Scan :=
  { scan with
    column := scan.column + width
    text := c :: (scan.gap.fold ++ scan.text)
    gap := Gap.none }

def join (scan : Scan) : Scan :=
  { column := 0, text := scan.gap.fold ++ scan.text, gap := ⟨[], [], true⟩ }

def finish (scan : Scan) : String := String.ofList (scan.gap.fold ++ scan.text).reverse

end Scan

structure Scanned where
  text : String
  next : Cursor

def Scan.close (scan : Scan) (rest : List Char) : Option Scanned :=
  some ⟨scan.finish, ⟨rest, scan.column + 1⟩⟩

/-- The rest of a single-quoted scalar after its opening quote; two quotes stand for one. -/
def singleQuoted (scan : Scan) : List Char → Option Scanned
  | [] => none
  | c :: rest =>
      if c = '\x27' then
        match rest with
        | d :: after => if d = '\x27' then singleQuoted (scan.push c 2) after else scan.close rest
        | [] => scan.close rest
      else if isBreak c then singleQuoted (scan.lineBreak c) rest
      else if isGap c then singleQuoted (scan.blank c) rest
      else if scan.column = 0 && atDocumentMark (c :: rest) then none
      else singleQuoted (scan.push c 1) rest

def shortEscape? : Char → Option Char
  | '0' => some '\x00'
  | 'a' => some '\x07'
  | 'b' => some '\x08'
  | 't' => some '\t'
  | '\t' => some '\t'
  | 'n' => some '\n'
  | 'v' => some '\x0b'
  | 'f' => some '\x0c'
  | 'r' => some '\r'
  | 'e' => some '\x1b'
  | ' ' => some ' '
  | '"' => some '"'
  | '/' => some '/'
  | '\\' => some '\\'
  | 'N' => some '\x85'
  | '_' => some '\xa0'
  | 'L' => some '\u2028'
  | 'P' => some '\u2029'
  | _ => none

def hexDigit? (c : Char) : Option Nat :=
  if c.isDigit then some (c.toNat - 48)
  else if 'a' ≤ c && c ≤ 'f' then some (c.toNat - 87)
  else if 'A' ≤ c && c ≤ 'F' then some (c.toNat - 55)
  else none

def coded? (digits : List Char) : Option Char := do
  let code ← digits.foldl (fun value c => do some (16 * (← value) + (← hexDigit? c))) (some 0)
  if code.isValidChar then some (Char.ofNat code) else none

def doubleQuoted (scan : Scan) : List Char → Option Scanned
  | [] => none
  | '"' :: rest => scan.close rest
  | '\\' :: 'x' :: a :: b :: rest => do
      let c ← coded? [a, b]
      doubleQuoted (scan.push c 4) rest
  | '\\' :: 'u' :: a :: b :: c :: d :: rest => do
      let c ← coded? [a, b, c, d]
      doubleQuoted (scan.push c 6) rest
  | '\\' :: 'U' :: a :: b :: c :: d :: e :: f :: g :: h :: rest => do
      let c ← coded? [a, b, c, d, e, f, g, h]
      doubleQuoted (scan.push c 10) rest
  | '\\' :: c :: rest =>
      if isBreak c then doubleQuoted scan.join rest
      else do
        let c ← shortEscape? c
        doubleQuoted (scan.push c 2) rest
  | c :: rest =>
      if isBreak c then doubleQuoted (scan.lineBreak c) rest
      else if isGap c then doubleQuoted (scan.blank c) rest
      else if scan.column = 0 && atDocumentMark (c :: rest) then none
      else doubleQuoted (scan.push c 1) rest

end Waveguide.Yaml
