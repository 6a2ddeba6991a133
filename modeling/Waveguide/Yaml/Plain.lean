import Waveguide.Yaml.Quoted

/-!
Plain scalars: words without quotes. One ends before a colon that announces a value, before a
comment, in a flow collection before a mark of the collection, and in block style before a line that
is not indented far enough. Lines are folded as in quoted scalars.
-/

namespace Waveguide.Yaml

def isFlowMark (c : Char) : Bool := c = ',' || c = '[' || c = ']' || c = '\x7b' || c = '\x7d'

def startsPlain (flow : Bool) : List Char → Bool
  | [] => false
  | c :: rest =>
      if c = '-' then !atGap rest
      else if c = '?' || c = ':' then !flow && !atGap rest
      else
        !(isGap c || isBreak c || isFlowMark c ||
          "#&*!|>\x27\"%@\x60".toList.contains c)

/-- The rest of a plain scalar. `last` is the scalar up to its last character so far; gaps after it
do not belong to the scalar. -/
def plainFrom (flow : Bool) (floor : Nat) (last : Scanned) (scan : Scan) :
    List Char → Option Scanned
  | [] => some last
  | c :: rest =>
      if isBreak c then plainFrom flow floor last (scan.lineBreak c) rest
      else if isGap c then
        if c = '\t' && scan.gap.crossed && !flow && scan.column < floor then none
        else plainFrom flow floor last (scan.blank c) rest
      else
        let crossed := scan.gap.crossed
        let parted := crossed || !scan.gap.blanks.isEmpty
        if crossed && !flow && scan.column < floor then some last
        else if crossed && scan.column = 0 && atDocumentMark (c :: rest) then some last
        else if c = '#' && parted then some last
        else if c = ':' && atGap rest then some last
        else if flow && c = ':' && (rest.take 1).any (fun d => isFlowMark d || d = '?') then none
        else if flow && isFlowMark c then some last
        else
          let scan := scan.push c 1
          let last : Scanned := ⟨String.ofList scan.text.reverse, ⟨rest, scan.column⟩⟩
          plainFrom flow floor last scan rest

def plainScalar (flow : Bool) (floor : Nat) (cursor : Cursor) : Option Scanned :=
  if startsPlain flow cursor.rest then
    plainFrom flow floor ⟨"", cursor⟩ (Scan.start cursor.column) cursor.rest
  else none

end Waveguide.Yaml
