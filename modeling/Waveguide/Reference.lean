import Waveguide.Element
import Waveguide.Failure

/-!
Points given by reference to other elements. Only elements that are already placed can be referred
to, except that the end of a line may refer to the line's own start.
-/

namespace Waveguide

structure IdIndex where
  entries : List (String × Nat)

namespace IdIndex

def empty : IdIndex := ⟨[]⟩

def find? (index : IdIndex) (id : String) : Option Nat := index.entries.lookup id

def contains (index : IdIndex) (id : String) : Bool := (index.find? id).isSome

def register {K : Type} (index : IdIndex) (id : String) (handle : Nat) :
    Except (Failure K) IdIndex :=
  if index.contains id then .error (.duplicateId id)
  else .ok ⟨index.entries ++ [(id, handle)]⟩

end IdIndex

structure OwnStart (K : Type) where
  id : Option String
  position : Point K

structure Resolved (K : Type) where
  position : Point K
  attachment : Option (Attachment K)

structure Resolver (K : Type) where
  elements : List (Element K)
  index : IdIndex

namespace Resolver

variable {K : Type}

def lookup (resolver : Resolver K) (id : String) : Except (Failure K) (Nat × Element K) :=
  match resolver.index.find? id with
  | none => .error (.unresolvedReference id)
  | some handle =>
      match resolver.elements[handle]? with
      | none => .error (.unresolvedReference id)
      | some element => .ok (handle, element)

def attach (resolver : Resolver K) (id : String) (tip : Tip) : Except (Failure K) (Resolved K) := do
  let (handle, element) ← resolver.lookup id
  .ok ⟨(element.tip tip).position, some ⟨handle, element.kind, tip, element.width⟩⟩

variable [Scalar K]

def relative (resolver : Resolver K) (id : String) (tip : Tip) (offset : Point K) :
    Except (Failure K) (Point K) := do
  let (_, element) ← resolver.lookup id
  .ok ((element.tip tip).position.add offset)

/-- The point of a line or connector. An attachment takes precedence over a reference; coordinates
that are left out are those of `fallback`. -/
def linePoint (resolver : Resolver K) (spec : PointSpec K) (fallback : Point K)
    (own : Option (OwnStart K)) : Except (Failure K) (Resolved K) :=
  match spec.attachedTo, spec.reference with
  | some target, _ => resolver.attach target spec.tip
  | none, some target => do
      let offset : Point K := ⟨spec.x.getD 0, spec.y.getD 0⟩
      let ownStart := own.filter fun own => own.id == some target
      let position ← match ownStart with
        | some own =>
            if spec.tip = .start then .ok (own.position.add offset)
            else .error (.unresolvedReference target)
        | none => resolver.relative target spec.tip offset
      .ok ⟨position, none⟩
  | none, none => .ok ⟨⟨spec.x.getD fallback.x, spec.y.getD fallback.y⟩, none⟩

def position (resolver : Resolver K) (spec : PositionSpec K) : Except (Failure K) (Point K × K) :=
  match spec.reference with
  | some target => do
      let (_, element) ← resolver.lookup target
      .ok ((element.tip spec.tip).position.add ⟨spec.x, spec.y⟩, spec.width * element.width)
  | none => .ok (⟨spec.x, spec.y⟩, spec.width)

end Resolver

end Waveguide
