import Waveguide.Yaml.Cursor

/-!
Block scalars: indented text after a bar, whose lines are kept, or after an angle, whose lines are
folded. A mark decides whether the line breaks at the end are dropped, cut to one, or kept.
-/

namespace Waveguide.Yaml

inductive Chomping where
  | strip
  | clip
  | keep
  deriving DecidableEq

structure Header where
  chomping : Chomping
  indentation : Option Nat

def indentationDigit? (c : Char) : Option Nat :=
  if '1' ≤ c && c ≤ '9' then some (c.toNat - 48) else none

def chomping? (c : Char) : Option Chomping :=
  if c = '+' then some .keep else if c = '-' then some .strip else none

/-- The two marks may come in either order. -/
def header (text : List Char) : Header × List Char :=
  match text with
  | c :: rest =>
      match chomping? c, indentationDigit? c with
      | some chomping, _ =>
          match rest with
          | d :: after =>
              match indentationDigit? d with
              | some size => (⟨chomping, some size⟩, after)
              | none => (⟨chomping, none⟩, rest)
          | [] => (⟨chomping, none⟩, rest)
      | none, some size =>
          match rest with
          | d :: after =>
              match chomping? d with
              | some chomping => (⟨chomping, some size⟩, after)
              | none => (⟨.clip, some size⟩, rest)
          | [] => (⟨.clip, some size⟩, rest)
      | none, none => (⟨.clip, none⟩, text)
  | [] => (⟨.clip, none⟩, text)

structure Line where
  text : List Char
  stop : Option Char

def Line.chars (line : Line) : List Char := line.text ++ line.stop.toList

def lines : List Char → List Line
  | [] => []
  | c :: rest =>
      if isBreak c then ⟨[], some c⟩ :: lines rest
      else match lines rest with
        | [] => [⟨[c], none⟩]
        | line :: others => { line with text := c :: line.text } :: others

def Line.spaces (line : Line) : Nat := (line.text.takeWhile (· = ' ')).length

/-- The indentation that the blank lines and the first other line show; none if a tab stands in
it. -/
def shownIndentation : Nat → List Line → Option Nat
  | most, [] => some most
  | most, line :: others =>
      let most := max most line.spaces
      match line.text.drop line.spaces with
      | [] => if line.stop.isSome then shownIndentation most others else some most
      | c :: _ => if c = '\t' then none else some most

/-- The text collected so far, last character first, and the line breaks that may still join it. -/
structure Body where
  text : List Char
  stop : Option Char
  indented : Bool
  blanks : List Char

def Body.start : Body := ⟨[], none, false, []⟩

def Body.add (folded : Bool) (body : Body) (line : Line) : Body :=
  let indented := match line.text with
    | c :: _ => isGap c
    | [] => false
  let separator :=
    if folded && body.stop = some '\n' && !body.indented && !indented then
      if body.blanks.isEmpty then [' '] else []
    else body.stop.toList
  { text := line.text.reverse ++ (body.blanks ++ (separator ++ body.text))
    stop := line.stop
    indented := indented
    blanks := [] }

def Body.finish (body : Body) (chomping : Chomping) : String :=
  let last := if chomping == .strip then [] else body.stop.toList
  let blanks := if chomping == .keep then body.blanks else []
  String.ofList (blanks ++ (last ++ body.text)).reverse

/-- The lines of a block scalar, and those after it. A line belongs to it when it is blank or
indented far enough. -/
def bodyLines (folded : Bool) (indentation : Nat) (body : Body) :
    List Line → Option (Body × List Line)
  | [] => some (body, [])
  | line :: others =>
      let depth := min line.spaces indentation
      match line.text.drop depth with
      | [] =>
          match line.stop with
          | some c => bodyLines folded indentation { body with blanks := c :: body.blanks } others
          | none => some (body, line :: others)
      | c :: rest =>
          if depth < indentation then if c = '\t' then none else some (body, line :: others)
          else bodyLines folded indentation (body.add folded { line with text := c :: rest }) others

/-- A block scalar after its bar or angle. `floor` is the least indentation it may have. -/
def blockScalar (folded : Bool) (floor : Nat) (text : List Char) : Option (String × Cursor) := do
  let (header, text) := header text
  let rest := text.dropWhile isGap
  let rest := match rest with
    | '#' :: _ => rest.dropWhile fun c => !isBreak c
    | _ => rest
  let rest ← match rest with
    | [] => some []
    | c :: rest => if isBreak c then some rest else none
  let content := lines rest
  let indentation ← match header.indentation with
    | some size => some (floor - 1 + size)
    | none => (shownIndentation 0 content).map fun most => max most (max floor 1)
  let (body, others) ← bodyLines folded indentation Body.start content
  some (body.finish header.chomping, ⟨others.flatMap Line.chars, 0⟩)

end Waveguide.Yaml
