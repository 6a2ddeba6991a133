import Waveguide.Binary64
import Waveguide.CommandLine
import Waveguide.Description.Writer
import Waveguide.Json.Printer
import Waveguide.Main
import Waveguide.Proofs.Exact
import Waveguide.Proofs.Lines
import Waveguide.Proofs.Built
import Waveguide.Proofs.Scan
import Waveguide.Proofs.Settling
import Waveguide.Proofs.Potential
import Waveguide.Proofs.Termination
import Waveguide.Proofs.Conservation
import Waveguide.Proofs.Drawing
import Waveguide.Proofs.Separation
import Waveguide.Proofs.Verdict
import Waveguide.Proofs.Bystander
import Waveguide.Proofs.Renumbering
import Waveguide.Proofs.Locality
import Waveguide.Proofs.Sides
import Waveguide.Proofs.Anchors
import Waveguide.Proofs.Points
import Waveguide.Proofs.Mapped
import Waveguide.Proofs.Revision
import Waveguide.Proofs.Consistency
import Waveguide.Proofs.Centering
import Waveguide.Proofs.Translation
import Waveguide.Proofs.Guises
import Waveguide.Proofs.Bare
import Waveguide.Proofs.Coordinates
import Waveguide.Proofs.Containment
import Waveguide.Proofs.Additions
import Waveguide.Proofs.Fittings
import Waveguide.Proofs.Outline
import Waveguide.Proofs.Writing
import Waveguide.Proofs.Structure
import Waveguide.Proofs.Reading
import Waveguide.Proofs.Filling
import Waveguide.Proofs.Emission
import Waveguide.Proofs.Silence
import Waveguide.Proofs.Remarks
import Waveguide.Proofs.Spill
import Waveguide.Proofs.Replacement
import Waveguide.Proofs.Delivery
import Waveguide.Proofs.Rendered
import Waveguide.Proofs.Restoring
import Waveguide.Proofs.Pattern
import Waveguide.Proofs.Cutting
import Waveguide.Proofs.Tiles
import Waveguide.Proofs.Displacement
import Waveguide.Proofs.Severance
import Waveguide.Proofs.Junctions
import Waveguide.Proofs.Channels
import Waveguide.Proofs.Extended
import Waveguide.Proofs.Screening
import Waveguide.Proofs.Standstill
import Waveguide.Proofs.Hull
import Waveguide.Proofs.Versions
import Waveguide.Proofs.Rows
import Waveguide.Proofs.Marks
