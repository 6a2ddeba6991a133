import Waveguide.Decimal

/-!
A document is a tree of records, lists and scalars in some notation. `Document` is the view that a
reader takes of it: what a node is, if read as a text, a number, a list or a record.
-/

namespace Waveguide

class Document (ν : Type) where
  isNull : ν → Bool
  text? : ν → Option String
  choice? : ν → Option String
  flag? : ν → Option Bool
  count? : ν → Option Nat
  figure? : ν → Option Figure
  /-- The number a node stands for where its kind is decided before it is read. -/
  denoted? : ν → Option Figure
  items? : ν → Option (List ν)
  members? : ν → Option (List (String × ν))

namespace Document

variable {ν : Type} [Document ν]

structure Record (ν : Type) where
  fields : List (String × ν)
  /-- The record was written as a list of its values, in the order of the fields. -/
  positional : Bool

def distinct : List (String × ν) → Bool
  | [] => true
  | (name, _) :: fields => !fields.any (fun field => field.1 == name) && distinct fields

def positionalRecord? (names : List String) (items : List ν) : Option (Record ν) :=
  if items.length ≤ names.length then some ⟨names.zip items, true⟩ else none

/-- Fields with other names are ignored, a known field must not be given twice. -/
def namedRecord? (names : List String) (members : List (String × ν)) : Option (Record ν) :=
  let fields := members.filter fun member => names.contains member.1
  if distinct fields then some ⟨fields, false⟩ else none

def record? (names : List String) (node : ν) : Option (Record ν) :=
  match members? node with
  | some members => namedRecord? names members
  | none => (items? node).bind (positionalRecord? names)

variable {α : Type}

def Record.required (record : Record ν) (name : String) (read : ν → Option α) : Option α :=
  (record.fields.lookup name).bind read

def Record.withDefault (record : Record ν) (name : String) (default : α) (read : ν → Option α) :
    Option α :=
  match record.fields.lookup name with
  | none => some default
  | some node => read node

def nullable (read : ν → Option α) (node : ν) : Option (Option α) :=
  if isNull node then some none else (read node).map some

def Record.optional (record : Record ν) (name : String) (read : ν → Option α) : Option (Option α) :=
  record.withDefault name none (nullable read)

def list? (read : ν → Option α) (node : ν) : Option (List α) :=
  (items? node).bind fun items => items.mapM read

end Document

end Waveguide
