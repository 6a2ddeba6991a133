import Waveguide.Layout

/-!
Settling the vertical conflicts of a layout. Two lines that share part of their x-range conflict
when they are closer than their clearances allow. Closer than the hard clearances, their blocks
would overlap, and nothing can be done. Closer than the soft ones, the padding between them is
split; since padding is the same along a line, parts that overhang the other line are cut off
first.

One change is made at a time, the first one a scan over all pairs asks for; the layout is settled
when a scan asks for none.
-/

namespace Waveguide

variable {K : Type} [Scalar K]

inductive Change (K : Type) where
  | cut (line : Nat) (x : K)
  | split (upper lower : Nat) (distance : K)

namespace Line

def disjoint (a b : Line K) : Bool := decide (a.maxX ≤ b.minX) || decide (b.maxX ≤ a.minX)

/-- The fraction of a period before `x`, as a line continues its grooves to there. Inside the first
period, which the line may have begun in the middle, it is what is left to the period's end. -/
def skipAt (line : Line K) (x : K) : K :=
  let period := line.property.grooves.period
  let past := x - line.start.x - period * (1 - line.skip)
  if past < 0 then 1 + past / period else Scalar.cyclicRemainder past period / period

/-- Cuts a line at `x`: the line keeps the left part, and a new line without a name takes over the
right part with the old end. -/
def cut (line : Line K) (x : K) (parent : Nat) : Except (Failure K) (Line K × Line K) :=
  if line.finish.x < line.start.x then .error (.lineEndsOrder line.start.x line.finish.x)
  else
    let point : Endpoint K := Endpoint.plain ⟨x, line.finish.y⟩
    let fragment := { line with
      id := none
      comment := none
      start := point
      skip := normalizeSkip (line.skipAt x)
      parent := some parent }
    .ok ({ line with finish := point }, fragment)

end Line

/-- What to do about an upper and a lower line that are too close for their padding: cut off what
overhangs on the left, then on the right, or split the padding. -/
def alignment (upper lower : Nat × Line K) (distance : K) : Change K :=
  let (upperHandle, up) := upper
  let (lowerHandle, low) := lower
  if up.minX < low.minX - Scalar.tolerance then .cut upperHandle low.minX
  else if low.minX < up.minX - Scalar.tolerance then .cut lowerHandle up.minX
  else if up.maxX + Scalar.tolerance < low.maxX then .cut lowerHandle up.maxX
  else if low.maxX + Scalar.tolerance < up.maxX then .cut upperHandle low.maxX
  else .split upperHandle lowerHandle distance

def pairChange (a b : Nat × Line K) : Except (Failure K) (Option (Change K)) :=
  if a.2.disjoint b.2 then .ok none
  else
    let (upper, lower) := if b.2.y < a.2.y then (a, b) else (b, a)
    let up := upper.2.clearance
    let low := lower.2.clearance
    let distance := upper.2.y - lower.2.y
    if distance < low.up + up.down then .error (.strongConflict upper.2.y lower.2.y)
    else if up.softDown + low.softUp - Scalar.tolerance ≤ distance then .ok none
    else .ok (some (alignment upper lower distance))

def changeWith (line : Nat × Line K) : List (Nat × Line K) → Except (Failure K) (Option (Change K))
  | [] => .ok none
  | other :: others =>
      match pairChange line other with
      | .ok none => changeWith line others
      | found => found

def firstChange : List (Nat × Line K) → Except (Failure K) (Option (Change K))
  | [] => .ok none
  | line :: others =>
      match changeWith line others with
      | .ok none => firstChange others
      | found => found

namespace Layout

def nextChange (layout : Layout K) : Except (Failure K) (Option (Change K)) :=
  firstChange layout.lines

def setLine (layout : Layout K) (handle : Nat) (line : Line K) : Layout K :=
  { layout with elements := layout.elements.set handle (.line line) }

def cutLine (layout : Layout K) (handle : Nat) (x : K) :
    Except (Failure K) (Option (Layout K)) := do
  match layout.line? handle with
  | none => .ok none
  | some line =>
      let (left, fragment) ← line.cut x handle
      let layout := layout.setLine handle left
      .ok (some { layout with elements := layout.elements ++ [.line fragment] })

/-- The shares of an upper and a lower line in their distance: half each, unless half is less than
the hard clearance of one of them; then each keeps its hard clearance and half of what is left. -/
def shares (up low : Clearance K) (distance : K) : K × K :=
  let half := distance / 2.0
  if up.down ≤ half ∧ low.up ≤ half then (half, half)
  else
    let slack := distance - up.down - low.up
    (up.down + slack / 2.0, low.up + slack / 2.0)

def splitPadding (layout : Layout K) (upper lower : Nat) (distance : K) : Layout K :=
  match layout.line? upper, layout.line? lower with
  | some up, some low =>
      let (softDown, softUp) := shares up.clearance low.clearance distance
      let layout := layout.setLine upper { up with clearance := { up.clearance with softDown } }
      match layout.line? lower with
      | some low => layout.setLine lower { low with clearance := { low.clearance with softUp } }
      | none => layout
  | _, _ => layout

inductive Scan (K : Type) where
  | settled
  | failed (failure : Failure K)
  | cut (next : Layout K)
  | split (next : Layout K)

def scan (layout : Layout K) : Scan K :=
  match layout.nextChange with
  | .error failure => .failed failure
  | .ok none => .settled
  | .ok (some (.cut handle x)) =>
      match layout.cutLine handle x with
      | .error failure => .failed failure
      | .ok none => .settled
      | .ok (some next) => .cut next
  | .ok (some (.split upper lower distance)) => .split (layout.splitPadding upper lower distance)

/-- Scans and changes until the layout is settled, and counts the cuts. Changes made before a
failure stay. -/
def settleWithin : Nat → Nat → Layout K → Layout K × Except (Failure K) Nat
  | 0, _, layout => (layout, .error .unsettled)
  | scans + 1, cuts, layout =>
      match layout.scan with
      | .settled => (layout, .ok cuts)
      | .failed failure => (layout, .error failure)
      | .cut next => settleWithin scans (cuts + 1) next
      | .split next => settleWithin scans cuts next

def softClearance (lines : List (Nat × Line K)) : K :=
  lines.foldl (fun sum line => sum + (line.2.clearance.softUp + line.2.clearance.softDown)) 0

/-- A bound on the number of scans. Each line is cut at most twice for every other line, and between
two cuts each split takes more than the tolerance from the sum of all soft clearances, none of which
ever exceeds what all lines had together at first. -/
def scanLimit (layout : Layout K) : Nat :=
  let count := layout.lines.length
  let cuts := 2 * count * count
  let most := count + cuts
  let total : K := 2.0 * Scalar.ofCount most * softClearance layout.lines
  (cuts + 1) * (Scalar.wholeUnits (total / Scalar.tolerance) + most * most + 2) + 1

/-- Over rounded numbers the bound may be reached where scanning would never end. -/
def settle (layout : Layout K) : Layout K × Except (Failure K) Nat :=
  settleWithin layout.scanLimit 0 layout

end Layout

end Waveguide
