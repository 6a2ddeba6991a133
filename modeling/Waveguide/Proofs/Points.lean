import Mathlib
import Waveguide.Layout

/-!
How the points of lines and connectors are found, case by case: by attachment, by reference to an
element or to the line's own start, by periods, or by plain coordinates.
-/

namespace Waveguide

variable {K : Type}

theorem bind_eq_ok {ε α β : Type} {action : Except ε α} {next : α → Except ε β} {result : β} :
    (action >>= next) = .ok result ↔ ∃ value, action = .ok value ∧ next value = .ok result := by
  cases action <;> simp [bind, Except.bind]

theorem bind_ok_eq_map {ε α β : Type} (action : Except ε α) (next : α → β) :
    (action >>= fun value => .ok (next value)) = action.map next := by
  cases action with
  | error failure => rfl
  | ok value => rfl

theorem map_eq_ok {ε α β : Type} {action : Except ε α} {next : α → β} {result : β} :
    action.map next = .ok result ↔ ∃ value, action = .ok value ∧ next value = result := by
  cases action with
  | error failure => simp [Except.map]
  | ok value => simp [Except.map]

theorem ok_of_toOption {ε α : Type} {action : Except ε α} {value : α}
    (known : action.toOption = some value) : action = .ok value := by
  cases action with
  | error failure => contradiction
  | ok found => exact congrArg Except.ok (Option.some.inj known)

theorem Resolver.lookup_ok {resolver : Resolver K} {id : String} {handle : Nat}
    {element : Element K} :
    resolver.lookup id = .ok (handle, element) ↔
      resolver.index.find? id = some handle ∧ resolver.elements[handle]? = some element := by
  unfold Resolver.lookup
  split
  · rename_i missing
    simp [missing]
  · rename_i place found
    split
    · rename_i missing
      constructor
      · intro impossible
        contradiction
      · rintro ⟨same, listed⟩
        obtain rfl := Option.some.inj (found.symm.trans same)
        simp [missing] at listed
    · rename_i other listed
      simp only [Except.ok.injEq, Prod.mk.injEq, found, Option.some.injEq]
      constructor
      · rintro ⟨rfl, rfl⟩
        exact ⟨rfl, listed⟩
      · rintro ⟨rfl, same⟩
        exact ⟨rfl, Option.some.inj (listed.symm.trans same)⟩

theorem Resolver.attach_eq (resolver : Resolver K) (id : String) (tip : Tip) :
    resolver.attach id tip = (resolver.lookup id).map fun found =>
      ⟨(found.2.tip tip).position, some ⟨found.1, found.2.kind, tip, found.2.width⟩⟩ :=
  bind_ok_eq_map _ _

theorem Resolver.attach_attached {resolver : Resolver K} {id : String} {tip : Tip}
    {point : Resolved K} (resolved : resolver.attach id tip = .ok point)
    {attachment : Attachment K} (attached : point.attachment = some attachment) :
    ∃ element, resolver.elements[attachment.target]? = some element ∧
      attachment.kind = element.kind ∧ attachment.width = element.width ∧
      point.position = (element.tip attachment.tip).position := by
  rw [attach_eq, map_eq_ok] at resolved
  obtain ⟨⟨handle, element⟩, looked, rfl⟩ := resolved
  obtain rfl := Option.some.inj attached
  exact ⟨element, (lookup_ok.mp looked).2, rfl, rfl, rfl⟩

theorem Layout.connectorTip_eq (layout : Layout K) (id : String) (tip : Tip) :
    layout.connectorTip id tip = (layout.resolver.attach id tip).map fun resolved =>
      (resolved.position, resolved.attachment.filter fun attachment => attachment.kind = .line) :=
  bind_ok_eq_map _ _

variable [Scalar K]

namespace PointSpec

def offset (spec : PointSpec K) : Point K := ⟨spec.x.getD 0, spec.y.getD 0⟩

def plain (spec : PointSpec K) (fallback : Point K) : Point K :=
  ⟨spec.x.getD fallback.x, spec.y.getD fallback.y⟩

end PointSpec

namespace Resolver

def reference (resolver : Resolver K) (spec : PointSpec K) (target : String)
    (own : Option (OwnStart K)) : Except (Failure K) (Point K) :=
  match own.filter fun own => own.id == some target with
  | some own =>
      if spec.tip = .start then .ok (own.position.add spec.offset)
      else .error (.unresolvedReference target)
  | none => resolver.relative target spec.tip spec.offset

theorem linePoint_eq (resolver : Resolver K) (spec : PointSpec K) (fallback : Point K)
    (own : Option (OwnStart K)) :
    resolver.linePoint spec fallback own =
      match spec.attachedTo, spec.reference with
      | some target, _ => resolver.attach target spec.tip
      | none, some target => (resolver.reference spec target own).map fun point => ⟨point, none⟩
      | none, none => .ok ⟨spec.plain fallback, none⟩ := by
  unfold linePoint reference
  cases spec.attachedTo with
  | some target => rfl
  | none =>
      cases spec.reference with
      | none => rfl
      | some target =>
          dsimp only
          generalize own.filter (fun own => own.id == some target) = found
          cases found with
          | none => exact bind_ok_eq_map _ _
          | some own => cases spec.tip <;> rfl

theorem linePoint_attached {resolver : Resolver K} {spec : PointSpec K} {fallback : Point K}
    {own : Option (OwnStart K)} {point : Resolved K}
    (resolved : resolver.linePoint spec fallback own = .ok point) {attachment : Attachment K}
    (attached : point.attachment = some attachment) :
    ∃ element, resolver.elements[attachment.target]? = some element ∧
      attachment.kind = element.kind ∧ attachment.width = element.width ∧
      point.position = (element.tip attachment.tip).position := by
  rw [linePoint_eq] at resolved
  split at resolved
  · exact attach_attached resolved attached
  · obtain ⟨_, _, rfl⟩ := map_eq_ok.mp resolved
    contradiction
  · obtain rfl := Except.ok.inj resolved
    contradiction

theorem relative_eq (resolver : Resolver K) (id : String) (tip : Tip) (offset : Point K) :
    resolver.relative id tip offset = (resolver.lookup id).map fun found =>
      (found.2.tip tip).position.add offset :=
  bind_ok_eq_map _ _

end Resolver

namespace Layout

variable (layout : Layout K)

theorem lineStart_eq (spec : LineSpec K) :
    layout.lineStart spec =
      (layout.resolver.linePoint spec.start Point.origin none).map
        (flush id spec.property.width) :=
  bind_ok_eq_map _ _

theorem lineFinish_eq (spec : LineSpec K) (start : Point K) :
    layout.lineFinish spec start =
      match spec.finish.periods with
      | some periods =>
          .ok ⟨⟨start.x + spec.finish.offset.norm + periods * spec.property.grooves.period,
            start.y⟩, none⟩
      | none =>
          (layout.resolver.linePoint spec.finish start (some ⟨spec.id, start⟩)).map
            (flush (fun half => -half) spec.property.width) := by
  unfold lineFinish
  cases spec.finish.periods with
  | some periods => rfl
  | none => exact bind_ok_eq_map _ _

theorem flush_attachment (sideways : K → K) (width : K) (point : Resolved K) :
    (flush sideways width point).attachment = point.attachment := by
  unfold flush
  split
  · split
    · rfl
    · rfl
  · rfl

section Attached

variable {layout} {spec : LineSpec K} {attachment : Attachment K}

theorem lineStart_attached {start : Resolved K} (resolved : layout.lineStart spec = .ok start)
    (attached : start.attachment = some attachment) :
    ∃ element, layout.elements[attachment.target]? = some element ∧
      attachment.kind = element.kind ∧ attachment.width = element.width := by
  rw [lineStart_eq] at resolved
  obtain ⟨point, found, rfl⟩ := map_eq_ok.mp resolved
  rw [flush_attachment] at attached
  obtain ⟨element, there, kind, width, _⟩ := Resolver.linePoint_attached found attached
  exact ⟨element, there, kind, width⟩

theorem lineFinish_attached {start : Point K} {finish : Resolved K}
    (resolved : layout.lineFinish spec start = .ok finish)
    (attached : finish.attachment = some attachment) :
    ∃ element, layout.elements[attachment.target]? = some element ∧
      attachment.kind = element.kind ∧ attachment.width = element.width := by
  rw [lineFinish_eq] at resolved
  split at resolved
  · obtain rfl := Except.ok.inj resolved
    contradiction
  · obtain ⟨point, found, rfl⟩ := map_eq_ok.mp resolved
    rw [flush_attachment] at attached
    obtain ⟨element, there, kind, width, _⟩ := Resolver.linePoint_attached found attached
    exact ⟨element, there, kind, width⟩

end Attached

/-- The line between two points that have been found, if it is in order and horizontal. -/
def lineBetween (spec : LineSpec K) (start finish : Resolved K) : Except (Failure K) (Line K) :=
  if finish.position.x < start.position.x - Scalar.tolerance then
    .error (.lineEndsOrder start.position.x finish.position.x)
  else if Scalar.tolerance < Scalar.abs (finish.position.y - start.position.y) then
    .error (.diagonalLine start.position.y finish.position.y)
  else
    .ok {
      id := spec.id
      comment := spec.comment
      start := Endpoint.attached start.position start.attachment
      finish := Endpoint.attached finish.position finish.attachment
      property := spec.property
      skip := normalizeSkip (spec.start.skip.getD 0)
      clearance := Clearance.ofProperty spec.property
      elevation := layout.thickness
      parent := none
    }

theorem prepareLine_eq (spec : LineSpec K) :
    layout.prepareLine spec = (do
      layout.checkId spec.id
      spec.property.validate
      let start ← layout.lineStart spec
      let finish ← layout.lineFinish spec start.position
      layout.lineBetween spec start finish) :=
  rfl

variable {layout}

theorem prepareLine_ok {spec : LineSpec K} {line : Line K}
    (prepared : layout.prepareLine spec = .ok line) :
    ∃ start finish, layout.checkId spec.id = .ok () ∧ spec.property.validate = .ok () ∧
      layout.lineStart spec = .ok start ∧ layout.lineFinish spec start.position = .ok finish ∧
      ¬ finish.position.x < start.position.x - Scalar.tolerance ∧
      ¬ Scalar.tolerance < Scalar.abs (finish.position.y - start.position.y) ∧
      line = {
        id := spec.id
        comment := spec.comment
        start := Endpoint.attached start.position start.attachment
        finish := Endpoint.attached finish.position finish.attachment
        property := spec.property
        skip := normalizeSkip (spec.start.skip.getD 0)
        clearance := Clearance.ofProperty spec.property
        elevation := layout.thickness
        parent := none } := by
  simp only [prepareLine, bind_eq_ok] at prepared
  obtain ⟨_, free, _, valid, start, started, finish, finished, placed⟩ := prepared
  split at placed
  · contradiction
  · rename_i ordered
    split at placed
    · contradiction
    · rename_i flat
      exact ⟨start, finish, free, valid, started, finished, ordered, flat,
        (Except.ok.inj placed).symm⟩

theorem prepareConnector_ok {spec : ConnectorSpec K} {connector : Connector K}
    (prepared : layout.prepareConnector spec = .ok connector) :
    ∃ startId finishId start first finish last, layout.checkId spec.id = .ok () ∧
      layout.connectorTip startId spec.start.tip = .ok (start, some first) ∧
      layout.connectorTip finishId spec.finish.tip = .ok (finish, some last) ∧
      ¬ finish.y + Scalar.tolerance < start.y ∧
      connector = {
        id := spec.id
        comment := spec.comment
        start := Endpoint.attached
          ⟨start.x + 0.5 * spec.property.width, start.y - 0.5 * first.width⟩ (some first)
        finish := Endpoint.attached
          ⟨start.x + 0.5 * spec.property.width, finish.y + 0.5 * last.width⟩ (some last)
        property := spec.property
        elevation := layout.thickness } := by
  simp only [prepareConnector, bind_eq_ok] at prepared
  obtain ⟨_, free, placed⟩ := prepared
  split at placed
  · simp only [bind_eq_ok] at placed
    obtain ⟨⟨start, first?⟩, started, ⟨finish, last?⟩, finished, placed⟩ := placed
    match first?, last? with
    | none, _ => contradiction
    | some _, none => contradiction
    | some first, some last =>
        simp only at placed
        split at placed
        · contradiction
        · rename_i rising
          exact ⟨_, _, start, first, finish, last, free, started, finished, rising,
            (Except.ok.inj placed).symm⟩
  · contradiction

end Layout

end Waveguide
