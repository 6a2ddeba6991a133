import Waveguide.Yaml.Plain
import Waveguide.Yaml.Literal

/-!
Reading YAML documents. Block collections are told by their columns, flow collections by their
brackets. Anchors, tags, directives and explicit keys are not part of the format.
-/

namespace Waveguide.Yaml

def quotedScalar? (cursor : Cursor) : Option Scanned :=
  match cursor.rest with
  | c :: rest =>
      if c = '"' then doubleQuoted (Scan.start (cursor.column + 1)) rest
      else if c = '\x27' then singleQuoted (Scan.start (cursor.column + 1)) rest
      else none
  | [] => none

def atQuote (cursor : Cursor) : Bool := (cursor.rest.take 1).any fun c => c = '"' || c = '\x27'

def scalar? (flow : Bool) (floor : Nat) (cursor : Cursor) : Option (Yaml × Scanned) :=
  if atQuote cursor then (quotedScalar? cursor).map fun scanned => (quoted scanned.text, scanned)
  else (plainScalar flow floor cursor).map fun scanned => (plain scanned.text, scanned)

mutual

def flowNode? (depth : Nat) (cursor : Cursor) : Option (Yaml × Cursor) :=
  match depth with
  | 0 => none
  | depth + 1 => do
      match cursor.rest with
      | '[' :: _ =>
          let (items, next) ← flowItems? depth (← cursor.step.skipFlow)
          some (sequence items, next)
      | '\x7b' :: _ =>
          let (entries, next) ← flowEntries? depth (← cursor.step.skipFlow)
          some (mapping entries, next)
      | _ =>
          let (node, scanned) ← scalar? true 0 cursor
          some (node, scanned.next)

/-- The items of a flow sequence, and the place after its bracket. An item with a colon is a mapping
of one entry. -/
def flowItems? (depth : Nat) (cursor : Cursor) : Option (List Yaml × Cursor) :=
  match depth with
  | 0 => none
  | depth + 1 => do
      if cursor.rest.head? = some ']' then some ([], cursor.step)
      else
        let (item, next) ← flowNode? depth cursor
        let next ← next.skipFlow
        let (item, next) ←
          if next.atColon true then
            match item with
            | plain name | quoted name => do
                if !cursor.keyReaches next then none
                let (value, next) ← flowValue? depth next
                some (mapping [(name, value)], next)
            | _ => none
          else some (item, next)
        match next.rest with
        | ']' :: _ => some ([item], next.step)
        | ',' :: _ =>
            let (items, next) ← flowItems? depth (← next.step.skipFlow)
            some (item :: items, next)
        | _ => none

def flowValue? (depth : Nat) (cursor : Cursor) : Option (Yaml × Cursor) :=
  match depth with
  | 0 => none
  | depth + 1 => do
      let next ← cursor.step.skipFlow
      if (next.rest.take 1).any (fun c => c = ',' || c = ']' || c = '\x7d') then
        some (plain "", next)
      else
        let (value, next) ← flowNode? depth next
        some (value, ← next.skipFlow)

def flowEntries? (depth : Nat) (cursor : Cursor) : Option (List (String × Yaml) × Cursor) :=
  match depth with
  | 0 => none
  | depth + 1 => do
      if cursor.rest.head? = some '\x7d' then some ([], cursor.step)
      else
        let (_, scanned) ← scalar? true 0 cursor
        let next ← scanned.next.skipFlow
        let (value, next) ←
          if !next.atColon true then some (plain "", next)
          else if cursor.keyReaches next then flowValue? depth next
          else none
        match next.rest with
        | '\x7d' :: _ => some ([(scanned.text, value)], next.step)
        | ',' :: _ =>
            let (entries, next) ← flowEntries? depth (← next.step.skipFlow)
            some ((scanned.text, value) :: entries, next)
        | _ => none

end

def flowCollection? (cursor : Cursor) : Option (Yaml × Cursor) :=
  flowNode? (2 * cursor.rest.length + 2) cursor

def key? (cursor : Cursor) : Option (String × Cursor) := do
  let (_, scanned) ← scalar? false 0 cursor
  let next := scanned.next.skipGap
  if next.atColon false && cursor.keyReaches next then some (scanned.text, next.step) else none

def endLine? (cursor : Cursor) : Option Cursor := do
  let (next, broke) ← cursor.skip
  if broke || next.atEnd then some next else none

mutual

/-- A node in block style, and the token after it. Its lines must reach the column `floor`; a block
collection may start here only if `fresh` holds, which it does not after the key of a mapping. -/
def blockNode? (depth : Nat) (floor : Nat) (fresh : Bool) (cursor : Cursor) :
    Option (Yaml × Cursor) :=
  match depth with
  | 0 => none
  | depth + 1 => do
      if cursor.atDash then
        if fresh then
          let (items, next) ← blockItems? depth cursor.column false cursor
          some (sequence items, next)
        else none
      else
        match cursor.rest with
        | '|' :: rest =>
            let (text, next) ← blockScalar false floor rest
            some (quoted text, (← next.skipIndentation).1)
        | '>' :: rest =>
            let (text, next) ← blockScalar true floor rest
            some (quoted text, (← next.skipIndentation).1)
        | '[' :: _ | '\x7b' :: _ =>
            let (node, next) ← flowCollection? cursor
            some (node, ← endLine? next)
        | _ =>
            let (node, scanned) ← scalar? false floor cursor
            let next := scanned.next.skipGap
            if next.atColon false then
              if fresh && cursor.keyReaches next then
                let (entries, next) ← blockEntries? depth cursor.column scanned.text next.step
                some (mapping entries, next)
              else none
            else some (node, ← endLine? scanned.next)

/-- The items of a block sequence at a column. One that is not indented below the key it belongs to
(`level`) ends where the next key starts. -/
def blockItems? (depth : Nat) (column : Nat) (level : Bool) (cursor : Cursor) :
    Option (List Yaml × Cursor) :=
  match depth with
  | 0 => none
  | depth + 1 => do
      let (next, broke) ← cursor.step.skipIndentation
      let (item, next) ←
        if next.finished || (broke && next.column ≤ column) then some (plain "", next)
        else blockNode? depth (column + 1) true next
      if next.finished || next.column < column then some ([item], next)
      else if next.column = column && next.atDash then
        let (items, next) ← blockItems? depth column level next
        some (item :: items, next)
      else if next.column = column && level then some ([item], next)
      else none

def blockEntries? (depth : Nat) (column : Nat) (name : String) (cursor : Cursor) :
    Option (List (String × Yaml) × Cursor) :=
  match depth with
  | 0 => none
  | depth + 1 => do
      let (next, broke) ← cursor.skip
      let (value, next) ←
        if next.finished then some (plain "", next)
        else if !broke then blockNode? depth (column + 1) false next
        else if column < next.column then blockNode? depth (column + 1) true next
        else if next.column = column && next.atDash then do
          let (items, next) ← blockItems? depth column true next
          some (sequence items, next)
        else some (plain "", next)
      if next.finished || next.column < column then some ([(name, value)], next)
      else if next.column = column then
        let (other, next) ← key? next
        let (entries, next) ← blockEntries? depth column other next
        some ((name, value) :: entries, next)
      else none

end

def isAllowed (c : Char) : Bool :=
  let code := c.toNat
  code == 9 || code == 10 || code == 13 || (0x20 ≤ code && code ≤ 0x7e) || code == 0x85 ||
    (0xa0 ≤ code && code ≤ 0xd7ff) || (0xe000 ≤ code && code ≤ 0xfffd) ||
    0x10000 ≤ code

def unifyBreaks : List Char → List Char
  | [] => []
  | '\r' :: '\n' :: rest => '\n' :: unifyBreaks rest
  | c :: rest => (if c = '\r' || c = '\x85' then '\n' else c) :: unifyBreaks rest

/-- Whether a text ends here, perhaps after marks that say so. The count bounds the marks. -/
def endsAfter : Nat → Cursor → Bool
  | 0, cursor => cursor.atEnd
  | count + 1, cursor =>
      if cursor.atMark && cursor.rest.take 3 == ['.', '.', '.'] then
        match Cursor.skip ⟨cursor.rest.drop 3, 3⟩ with
        | some (next, _) => endsAfter count next
        | none => false
      else cursor.atEnd

def endsDocument (cursor : Cursor) : Bool := endsAfter cursor.rest.length cursor

/-- The node of a text with one document. A text without any is an empty scalar. -/
def parse? (text : String) : Option Yaml := do
  if !text.toList.all isAllowed then none
  let chars := unifyBreaks text.toList
  let (start, _) ← Cursor.skipIndentation ⟨chars, 0⟩
  let marked := start.column = 0 && start.rest.take 3 == ['-', '-', '-'] && start.atMark
  let (start, fresh) ←
    if marked then do
      let (next, broke) ← Cursor.skip ⟨start.rest.drop 3, 3⟩
      some (next, broke)
    else some (start, true)
  let (node, next) ←
    if start.finished then some (plain "", start)
    else blockNode? (4 * chars.length + 8) 0 fresh start
  if endsDocument next then some node else none

end Waveguide.Yaml
