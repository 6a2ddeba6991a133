import Waveguide.Conflict
import Waveguide.Diagnostics
import Waveguide.Version

/-!
A scene is a description with everything in its place: the layout is built, centered and settled,
then sources and observers are placed in the centered frame.
-/

namespace Waveguide

structure Settings (K : Type) where
  inputName : String
  structureOnly : Bool
  snapshotInterval : K
  structureOnlyDuration : K

structure Source (K : Type) where
  comment : Option String
  position : Point K
  width : K
  property : SourceProperty K

structure FluxPoint (K : Type) where
  comment : Option String
  position : Point K
  width : K
  property : FluxProperty K

structure Transient (K : Type) where
  comment : Option String
  component : String
  field : String
  interval : K
  position : Option (Point K)

inductive RunControl (K : Type) where
  | structureOnly
  | decay (position : Point K)
  | fixed

structure Scene (K : Type) where
  layout : Layout K
  sources : List (Source K)
  fluxes : List (FluxPoint K)
  transients : List (Transient K)
  run : RunControl K
  duration : K
  resolution : K
  complex : Bool
  overshot : K
  thickness : Option K
  comment : Option String
  cuts : Nat
  diagnostics : Diagnostics

variable {K : Type} [Numeral K]

def Settings.default : Settings K :=
  { inputName := "gen.yaml"
    structureOnly := false
    snapshotInterval := 0.6
    structureOnlyDuration := 0.1 }

namespace Layout

def addAll (layout : Layout K) : List (ElementSpec K) → Except (Failure K) (Layout K)
  | [] => .ok layout
  | spec :: specs =>
      match layout.add spec with
      | (layout, .ok _) => layout.addAll specs
      | (_, .error failure) => .error failure

end Layout

namespace Diagnostics

def pointText (point : Point K) : String :=
  "(" ++ Numeral.text point.x ++ ", " ++ Numeral.text point.y ++ ")"

def checkInside (diagnostics : Diagnostics) (layout : Layout K) (kind : WarningKind)
    (subject : String) (point : Point K) : Diagnostics :=
  if layout.isInside point then diagnostics
  else
    diagnostics.warn kind
      ("The " ++ subject ++ " at " ++ pointText point ++ " is outside the structure")

def checkListed {α : Type} (diagnostics : Diagnostics) (kind : WarningKind) (subject : String)
    (items : List α) : Diagnostics :=
  if items.isEmpty then diagnostics.warn kind ("The list of " ++ subject ++ " is empty!")
  else diagnostics

end Diagnostics

namespace Scene

def placeAll {α β : Type} (place : α → Diagnostics → Except (Failure K) (β × Diagnostics)) :
    List α → Diagnostics → Except (Failure K) (List β × Diagnostics)
  | [], diagnostics => .ok ([], diagnostics)
  | item :: items, diagnostics => do
      let (placed, diagnostics) ← place item diagnostics
      let (others, diagnostics) ← placeAll place items diagnostics
      .ok (placed :: others, diagnostics)

def placeSource (layout : Layout K) (spec : SourceSpec K) (diagnostics : Diagnostics) :
    Except (Failure K) (Source K × Diagnostics) := do
  let (position, width) ← layout.resolver.position spec.position
  .ok (⟨spec.comment, position, width, spec.property⟩,
    diagnostics.checkInside layout .sourceOutside "source" position)

def placeFlux (layout : Layout K) (spec : FluxSpec K) (diagnostics : Diagnostics) :
    Except (Failure K) (FluxPoint K × Diagnostics) := do
  let (position, width) ← layout.resolver.position spec.position
  .ok (⟨spec.comment, position, width, spec.property⟩,
    diagnostics.checkInside layout .observerOutside "flux point" position)

def placeTransient (layout : Layout K) (interval : K) (spec : TransientSpec K)
    (diagnostics : Diagnostics) : Except (Failure K) (Transient K × Diagnostics) := do
  let transient (position : Option (Point K)) : Transient K :=
    ⟨spec.comment, spec.component, spec.field, spec.interval.getD interval, position⟩
  match spec.position with
  | none => .ok (transient none, diagnostics)
  | some position =>
      let (position, _) ← layout.resolver.position position
      .ok (transient (some position),
        diagnostics.checkInside layout .transientOutside "transient" position)

def snapshots (interval : K) : Option (SnapshotSpec K) → List (Transient K)
  | some snapshot =>
      [⟨none, snapshot.component, snapshot.field, snapshot.interval.getD interval, none⟩]
  | none => []

/-- The fields decay at the first flux point, or at the origin if there is none. -/
def decayPoint : List (FluxPoint K) → Point K
  | flux :: _ => flux.position
  | [] => Point.origin

def runControl (settings : Settings K) (time : TimeSpec K) (fluxes : List (FluxPoint K)) :
    RunControl K × K :=
  if settings.structureOnly || time.structureOnly then
    (.structureOnly, settings.structureOnlyDuration)
  else
    match time.stop with
    | .decay => (.decay (decayPoint fluxes), time.duration)
    | .fixed => (.fixed, time.duration)

def place (geometry : GeometrySpec K) : Except (Failure K) (Layout K) := do
  let layout ← (Layout.empty geometry.thickness).addAll geometry.elements
  .ok layout.center

def build (description : Description K) (settings : Settings K) :
    Except (Failure K) (Scene K) := do
  Version.check description.version Version.current
  let geometry := description.geometry
  let diagnostics := Diagnostics.empty.checkListed .noElements "elements" geometry.elements
  let placed ← place geometry
  let (layout, settled) := placed.settle
  let cuts ← settled
  let diagnostics := diagnostics.checkListed .noSources "sources" description.sources
  let (sources, diagnostics) ← placeAll (placeSource layout) description.sources diagnostics
  let collectors := description.collectors
  let diagnostics := diagnostics.checkListed .noObservers "flux points" collectors.spectral
  let (fluxes, diagnostics) ← placeAll (placeFlux layout) collectors.spectral diagnostics
  let interval := settings.snapshotInterval
  let (transients, diagnostics) ←
    placeAll (placeTransient layout interval) collectors.temporal diagnostics
  let controls := description.controls
  let (run, duration) := runControl settings controls.time fluxes
  .ok {
    layout
    sources
    fluxes
    transients := snapshots interval controls.snapshot ++ transients
    run
    duration
    resolution := controls.resolution
    complex := controls.complex
    overshot := geometry.overshot
    thickness := geometry.thickness
    comment := description.comment
    cuts
    diagnostics
  }

end Scene

end Waveguide
