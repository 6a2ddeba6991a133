import Waveguide.Yaml

/-!
A place in a text: the characters still to read and the column of the first of them. Between the
parts of a document stand spaces, line breaks and comments.
-/

namespace Waveguide.Yaml

structure Cursor where
  rest : List Char
  column : Nat

def isGap (c : Char) : Bool := c = ' ' || c = '\t'

/-- The characters that end a line: the line feed, and the separators of lines and paragraphs. -/
def isBreak (c : Char) : Bool := c = '\n' || c = '\u2028' || c = '\u2029'

def atGap : List Char → Bool
  | [] => true
  | c :: _ => isGap c || isBreak c

def atDocumentMark : List Char → Bool
  | '-' :: '-' :: '-' :: rest => atGap rest
  | '.' :: '.' :: '.' :: rest => atGap rest
  | _ => false

namespace Cursor

def atEnd (cursor : Cursor) : Bool := cursor.rest.isEmpty

def atMark (cursor : Cursor) : Bool := cursor.column = 0 && atDocumentMark cursor.rest

def finished (cursor : Cursor) : Bool := cursor.atEnd || cursor.atMark

def step (cursor : Cursor) : Cursor := ⟨cursor.rest.drop 1, cursor.column + 1⟩

def skipGap (cursor : Cursor) : Cursor :=
  let rest := cursor.rest.dropWhile isGap
  ⟨rest, cursor.column + (cursor.rest.length - rest.length)⟩

/-- Whether a value is announced: a colon, followed in block style by a gap. -/
def atColon (flow : Bool) (cursor : Cursor) : Bool :=
  match cursor.rest with
  | ':' :: rest => flow || atGap rest
  | _ => false

def keyReaches (start finish : Cursor) : Bool :=
  let size := start.rest.length - finish.rest.length
  size ≤ 1024 && !(start.rest.take size).any isBreak

def atDash (cursor : Cursor) : Bool :=
  match cursor.rest with
  | '-' :: rest => atGap rest
  | _ => false

/-- Moves past spaces, line breaks and comments; the answer says whether a line ended on the way.
Tabs may stand within a line, but not in the indentation of a block line. A byte order mark at the
start of a line counts as a space. -/
def skipFrom (flow : Bool) :
    (column : Nat) → (tabs comment broke : Bool) → List Char → Option (Cursor × Bool)
  | column, _, _, broke, [] => some (⟨[], column⟩, broke)
  | column, tabs, comment, broke, c :: rest =>
      if isBreak c then skipFrom flow 0 flow false true rest
      else if comment then skipFrom flow (column + 1) tabs true broke rest
      else if c = '\ufeff' && column = 0 then skipFrom flow 1 tabs false broke rest
      else if c = ' ' then skipFrom flow (column + 1) tabs false broke rest
      else if c = '\t' then if tabs then skipFrom flow (column + 1) tabs false broke rest else none
      else if c = '#' then skipFrom flow (column + 1) tabs true broke rest
      else some (⟨c :: rest, column⟩, broke)

def skip (cursor : Cursor) : Option (Cursor × Bool) :=
  skipFrom false cursor.column true false false cursor.rest

def skipIndentation (cursor : Cursor) : Option (Cursor × Bool) :=
  skipFrom false cursor.column false false false cursor.rest

def skipFlow (cursor : Cursor) : Option Cursor := do
  let (next, _) ← skipFrom true cursor.column true false false cursor.rest
  if next.atMark then none else some next

end Cursor

end Waveguide.Yaml
