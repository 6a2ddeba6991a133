import Mathlib
import Waveguide.Proofs.Lines

/-!
The lines of a layout by their places, and what becomes of them when one line is replaced and when
one is appended.
-/

namespace Waveguide.Layout

section Places

variable {K : Type}

theorem line?_eq_some_iff {layout : Layout K} {handle : Nat} {line : Line K} :
    layout.line? handle = some line ↔ layout.elements[handle]? = some (.line line) := by
  unfold line?
  cases found : layout.elements[handle]? with
  | none => simp
  | some element => cases element <;> simp [Element.asLine?]

theorem line?_bound {layout : Layout K} {handle : Nat} {line : Line K}
    (found : layout.line? handle = some line) : handle < layout.elements.length :=
  (List.getElem?_eq_some_iff.mp (line?_eq_some_iff.mp found)).1

def afterCut (layout : Layout K) (handle : Nat) (left fragment : Line K) : Layout K :=
  { layout with elements := layout.elements.set handle (.line left) ++ [.line fragment] }

theorem elements_setLine {layout : Layout K} {handle : Nat} (line : Line K)
    (bound : handle < layout.elements.length) (other : Nat) :
    (layout.setLine handle line).elements[other]? =
      if other = handle then some (.line line) else layout.elements[other]? := by
  by_cases same : other = handle
  · subst same
    simp [setLine, bound]
  · simp [setLine, same, Ne.symm same]

theorem line?_setLine {layout : Layout K} {handle : Nat} (line : Line K)
    (bound : handle < layout.elements.length) (other : Nat) :
    (layout.setLine handle line).line? other =
      if other = handle then some line else layout.line? other := by
  unfold line?
  rw [elements_setLine line bound]
  split
  · rfl
  · rfl

theorem line?_setLine_of_ne {layout : Layout K} {handle other : Nat} (line : Line K)
    (different : other ≠ handle) :
    (layout.setLine handle line).line? other = layout.line? other := by
  unfold line? setLine
  rw [List.getElem?_set_ne different.symm]

theorem map_elements_setLine {α : Type} (view : Element K → α) {layout : Layout K} {handle : Nat}
    {line new : Line K} (found : layout.line? handle = some line)
    (same : view (.line new) = view (.line line)) :
    (layout.setLine handle new).elements.map view = layout.elements.map view := by
  have there : (layout.elements.map view)[handle]? = some (view (.line new)) := by
    rw [List.getElem?_map, line?_eq_some_iff.mp found, same, Option.map_some]
  obtain ⟨bound, here⟩ := List.getElem?_eq_some_iff.mp there
  rw [setLine, List.map_set, ← here, List.set_getElem_self]

theorem elements_afterCut {layout : Layout K} {handle : Nat} (left fragment : Line K)
    (bound : handle < layout.elements.length) (other : Nat) :
    (layout.afterCut handle left fragment).elements[other]? =
      if other = layout.elements.length then some (.line fragment)
      else if other = handle then some (.line left) else layout.elements[other]? := by
  rw [← elements_setLine left bound]
  have length : (layout.setLine handle left).elements.length = layout.elements.length := by
    simp [setLine]
  change ((layout.setLine handle left).elements ++ [.line fragment])[other]? = _
  rw [← length]
  rcases Nat.lt_trichotomy other (layout.setLine handle left).elements.length with
    before | last | after
  · rw [List.getElem?_append_left before, if_neg (by omega)]
  · rw [last, List.getElem?_concat_length, if_pos rfl]
  · rw [if_neg (by omega), List.getElem?_eq_none (by simp; omega), List.getElem?_eq_none after.le]

theorem line?_afterCut {layout : Layout K} {handle : Nat} (left fragment : Line K)
    (bound : handle < layout.elements.length) (other : Nat) :
    (layout.afterCut handle left fragment).line? other =
      if other = layout.elements.length then some fragment
      else if other = handle then some left else layout.line? other := by
  unfold line?
  rw [elements_afterCut left fragment bound]
  split
  · rfl
  · split
    · rfl
    · rfl

theorem mem_linesFrom {first handle : Nat} {elements : List (Element K)} {line : Line K} :
    (handle, line) ∈ linesFrom first elements ↔
      ∃ index, handle = first + index ∧ elements[index]? = some (.line line) := by
  induction elements generalizing first with
  | nil => simp [linesFrom]
  | cons element elements ih =>
      have later : (∃ index, handle = first + 1 + index ∧ elements[index]? = some (.line line)) ↔
          ∃ index, handle = first + (index + 1) ∧ elements[index]? = some (.line line) := by
        simp only [← Nat.add_assoc, Nat.add_right_comm]
      rw [← Nat.or_exists_add_one]
      cases element with
      | line placed =>
          simp only [linesFrom, List.mem_cons, Prod.mk.injEq, ih, Nat.add_zero,
            List.getElem?_cons_zero, List.getElem?_cons_succ, Option.some.injEq,
            Element.line.injEq]
          rw [later, @eq_comm _ placed line]
      | connector placed =>
          simp only [linesFrom, ih, later, List.getElem?_cons_zero, List.getElem?_cons_succ,
            Option.some.injEq, reduceCtorEq, and_false, false_or]

theorem mem_lines {layout : Layout K} {entry : Nat × Line K} :
    entry ∈ layout.lines ↔ layout.line? entry.1 = some entry.2 := by
  obtain ⟨handle, line⟩ := entry
  simp [lines, mem_linesFrom, line?_eq_some_iff]

theorem lines_inj {layout : Layout K} {a b : Nat × Line K} (first : a ∈ layout.lines)
    (second : b ∈ layout.lines) (same : a.1 = b.1) : a = b := by
  have found := mem_lines.mp first
  rw [same, mem_lines.mp second, Option.some.injEq] at found
  exact Prod.ext same found.symm

theorem linesFrom_ordered (first : Nat) (elements : List (Element K)) :
    (linesFrom first elements).Pairwise fun a b => a.1 < b.1 := by
  induction elements generalizing first with
  | nil => exact List.Pairwise.nil
  | cons element elements ih =>
      cases element with
      | line placed =>
          refine List.Pairwise.cons ?_ (ih (first + 1))
          rintro ⟨handle, line⟩ member
          obtain ⟨index, place, _⟩ := mem_linesFrom.mp member
          simp only
          omega
      | connector placed => exact ih (first + 1)

theorem lines_ordered (layout : Layout K) : layout.lines.Pairwise fun a b => a.1 < b.1 :=
  linesFrom_ordered 0 layout.elements

end Places

theorem linesFrom_append (first : Nat) (elements others : List (Element ℚ)) :
    linesFrom first (elements ++ others) =
      linesFrom first elements ++ linesFrom (first + elements.length) others := by
  induction elements generalizing first with
  | nil => simp [linesFrom]
  | cons element elements ih =>
      have places : first + 1 + elements.length = first + (elements.length + 1) := by omega
      cases element <;> simp [linesFrom, ih, places]

def replaceLine (handle : Nat) (line : Line ℚ) (entry : Nat × Line ℚ) : Nat × Line ℚ :=
  if entry.1 = handle then (handle, line) else entry

@[simp] theorem replaceLine_fst (handle : Nat) (line : Line ℚ) (entry : Nat × Line ℚ) :
    (replaceLine handle line entry).1 = entry.1 := by
  unfold replaceLine
  split
  · rename_i same
    exact same.symm
  · rfl

theorem linesFrom_set {elements : List (Element ℚ)} {index : Nat} {old : Line ℚ} (new : Line ℚ)
    (found : elements[index]? = some (.line old)) (first : Nat) :
    linesFrom first (elements.set index (.line new)) =
      (linesFrom first elements).map (replaceLine (first + index) new) := by
  induction elements generalizing index first with
  | nil => simp at found
  | cons element elements ih =>
      have kept : ∀ entry ∈ linesFrom (first + 1) elements,
          replaceLine first new entry = entry := by
        rintro ⟨handle, line⟩ member
        obtain ⟨place, rfl, _⟩ := mem_linesFrom.mp member
        exact if_neg (by omega)
      cases index with
      | zero =>
          simp only [List.getElem?_cons_zero, Option.some.injEq] at found
          subst found
          simp only [List.set_cons_zero, linesFrom, List.map_cons, Nat.add_zero,
            List.map_congr_left kept, List.map_id']
          simp [replaceLine]
      | succ index =>
          have rest := ih (by simpa using found) (first + 1)
          have place : first + 1 + index = first + (index + 1) := by omega
          cases element with
          | line placed =>
              have here : replaceLine (first + (index + 1)) new (first, placed) = (first, placed) :=
                if_neg (by simp)
              rw [List.set_cons_succ, linesFrom, linesFrom, List.map_cons, here, rest, place]
          | connector placed =>
              rw [List.set_cons_succ, linesFrom, linesFrom, rest, place]

theorem lines_setLine {layout : Layout ℚ} {handle : Nat} {old : Line ℚ} (new : Line ℚ)
    (found : layout.line? handle = some old) :
    (layout.setLine handle new).lines = layout.lines.map (replaceLine handle new) := by
  have set := linesFrom_set new (line?_eq_some_iff.mp found) 0
  rw [Nat.zero_add] at set
  exact set

theorem lines_afterCut {layout : Layout ℚ} {handle : Nat} {old : Line ℚ} (left fragment : Line ℚ)
    (found : layout.line? handle = some old) :
    (layout.afterCut handle left fragment).lines =
      layout.lines.map (replaceLine handle left) ++ [(layout.elements.length, fragment)] := by
  rw [← lines_setLine left found]
  simp [lines, afterCut, setLine, linesFrom_append, linesFrom]

def connector? (layout : Layout ℚ) (handle : Nat) : Option (Connector ℚ) :=
  layout.elements[handle]?.bind Element.asConnector?

theorem connector?_setLine {layout : Layout ℚ} {handle : Nat} {old : Line ℚ} (new : Line ℚ)
    (found : layout.line? handle = some old) (other : Nat) :
    (layout.setLine handle new).connector? other = layout.connector? other := by
  unfold connector?
  rw [elements_setLine new (line?_bound found)]
  split
  · rename_i same
    rw [same, line?_eq_some_iff.mp found]
    rfl
  · rfl

theorem connector?_afterCut {layout : Layout ℚ} {handle : Nat} {old : Line ℚ}
    (left fragment : Line ℚ) (found : layout.line? handle = some old) (other : Nat) :
    (layout.afterCut handle left fragment).connector? other = layout.connector? other := by
  rw [← connector?_setLine left found]
  unfold connector?
  rw [elements_afterCut left fragment (line?_bound found),
    elements_setLine left (line?_bound found)]
  split
  · rename_i last
    rw [last, if_neg (line?_bound found).ne', List.getElem?_eq_none le_rfl]
    rfl
  · rfl

section Total

variable {M : Type} [AddCommMonoid M]

def total (weight : Line ℚ → M) (layout : Layout ℚ) : M :=
  (layout.lines.map fun entry => weight entry.2).sum

theorem sum_linesFrom_set (weight : Line ℚ → M) {old : Line ℚ} (new : Line ℚ)
    {elements : List (Element ℚ)} {index : Nat} (found : elements[index]? = some (.line old))
    (first : Nat) :
    ((linesFrom first (elements.set index (.line new))).map fun entry => weight entry.2).sum +
        weight old =
      ((linesFrom first elements).map fun entry => weight entry.2).sum + weight new := by
  induction elements generalizing index first with
  | nil => simp at found
  | cons element elements ih =>
      cases index with
      | zero =>
          simp only [List.getElem?_cons_zero, Option.some.injEq] at found
          subst found
          simp only [List.set_cons_zero, linesFrom, List.map_cons, List.sum_cons]
          abel
      | succ index =>
          have rest := ih (by simpa using found) (first + 1)
          cases element with
          | line placed =>
              simp only [List.set_cons_succ, linesFrom, List.map_cons, List.sum_cons, add_assoc,
                rest]
          | connector placed => simpa only [List.set_cons_succ, linesFrom] using rest

theorem total_setLine (weight : Line ℚ → M) {layout : Layout ℚ} {handle : Nat} {old : Line ℚ}
    (new : Line ℚ) (found : layout.line? handle = some old) :
    (layout.setLine handle new).total weight + weight old = layout.total weight + weight new :=
  sum_linesFrom_set weight new (line?_eq_some_iff.mp found) 0

theorem total_afterCut (weight : Line ℚ → M) {layout : Layout ℚ} {handle : Nat} {old : Line ℚ}
    (left fragment : Line ℚ) (found : layout.line? handle = some old) :
    (layout.afterCut handle left fragment).total weight + weight old =
      layout.total weight + weight left + weight fragment := by
  have replaced := total_setLine weight left found
  have appended : (layout.afterCut handle left fragment).total weight =
      (layout.setLine handle left).total weight + weight fragment := by
    simp only [total, lines, afterCut, setLine, linesFrom_append, linesFrom, List.map_append,
      List.sum_append, List.map_cons, List.map_nil, List.sum_singleton]
  rw [appended, add_right_comm, replaced]

end Total

end Waveguide.Layout
