import Mathlib
import Waveguide.Proofs.Points

/-!
A layout whose elements are all changed in one way: its references lead to the changed elements, and
changed elements are added to it as they would be without the change.
-/

namespace Waveguide

variable {K : Type}

namespace Layout

def mapElements (layout : Layout K) (change : Element K → Element K) : Layout K :=
  { layout with elements := layout.elements.map change }

variable {layout : Layout K} {change : Element K → Element K}

theorem lookup_mapElements (layout : Layout K) (change : Element K → Element K) (id : String) :
    (layout.mapElements change).resolver.lookup id =
      (layout.resolver.lookup id).map fun found => (found.1, change found.2) := by
  simp only [Resolver.lookup, resolver, mapElements, List.getElem?_map]
  cases layout.index.find? id with
  | none => rfl
  | some handle =>
      dsimp only
      cases layout.elements[handle]? with
      | none => rfl
      | some element => rfl

theorem attach_mapElements (id : String) (tip : Tip)
    (kind : ∀ element, (change element).kind = element.kind)
    (width : ∀ element, (change element).width = element.width) :
    (layout.mapElements change).resolver.attach id tip =
      (layout.resolver.lookup id).map fun found =>
        ⟨((change found.2).tip tip).position,
          some ⟨found.1, found.2.kind, tip, found.2.width⟩⟩ := by
  rw [Resolver.attach_eq, lookup_mapElements]
  cases layout.resolver.lookup id with
  | error failure => rfl
  | ok found => simp only [Except.map, kind, width]

theorem push_mapElements (layout : Layout K) (change : Element K → Element K) {element : Element K}
    (id : (change element).id = element.id) :
    (layout.mapElements change).push (change element) =
      ((layout.push element).1.mapElements change, (layout.push element).2) := by
  simp only [push, id, mapElements, List.length_map]
  cases element.id with
  | none => simp
  | some name =>
      dsimp only
      cases layout.index.register (K := K) name layout.elements.length with
      | error failure => rfl
      | ok index => simp

theorem modifyTip_mapElements (layout : Layout K) (attachment : Attachment K)
    {mark : Endpoint K → Endpoint K} {after : Element K → Element K}
    (same : ∀ element, change (element.modifyTip mark attachment.tip) = after (change element)) :
    (layout.modifyTip attachment mark).mapElements change =
      { layout with elements := (layout.elements.map change).modify attachment.target after } := by
  simp only [mapElements, modifyTip, Layout.mk.injEq, and_true]
  apply List.ext_getElem?
  intro place
  rw [List.getElem?_map, List.getElem?_modify, List.getElem?_modify, List.getElem?_map]
  cases layout.elements[place]? with
  | none => rfl
  | some element =>
      simp only [Option.map_eq_map, Option.map_some]
      split
      · rw [same]
      · rfl

end Layout

end Waveguide
