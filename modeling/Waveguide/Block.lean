import Waveguide.Segment

/-!
The rectangular blocks a structure is drawn with.
-/

namespace Waveguide

structure Block (K : Type) where
  medium : Medium K
  left : K
  right : K
  bottom : K
  top : K
  thickness : Option K

variable {K : Type} [Scalar K]

namespace Block

def center (block : Block K) : Point K :=
  ⟨(block.left + block.right) / 2.0, (block.bottom + block.top) / 2.0⟩

def size (block : Block K) : Point K := ⟨block.right - block.left, block.top - block.bottom⟩

end Block

def Segment.depth (grooves : Grooves K) (segment : Segment K) : K :=
  match segment.kind with
  | .flat => 0
  | .groove => grooves.depth

namespace Line

def layers (line : Line K) (segment : Segment K) : List (Block K) :=
  let materials := line.property.materials
  let half := 0.5 * line.property.width
  let depth := segment.depth line.property.grooves
  let block (medium : Medium K) (bottom top : K) : Block K :=
    ⟨medium, segment.start, segment.finish, bottom, top, line.elevation⟩
  [block materials.up (line.y + half + depth) (line.y + line.clearance.softUp),
    block materials.inner (line.y - half - depth) (line.y + half + depth),
    block materials.down (line.y - line.clearance.softDown) (line.y - half - depth)]

def blocks (line : Line K) : List (Block K) := line.segments.flatMap line.layers

def reach (line : Line K) : K := line.property.padding + line.property.grooves.depth

end Line

/-- A channel from the start line up to the end line, between caps of the lines' upper material. -/
def Connector.blocks (connector : Connector K) (startLine finishLine : Line K) : List (Block K) :=
  let x := connector.start.x
  let half := 0.5 * connector.property.width
  let bottom := connector.start.y
  let top := connector.finish.y
  let block (medium : Medium K) (bottom top : K) : Block K :=
    ⟨medium, x - half, x + half, bottom, top, connector.elevation⟩
  [block startLine.property.materials.up (bottom - startLine.reach) bottom,
    block connector.property.inner bottom top,
    block finishLine.property.materials.up top (top + finishLine.reach)]

end Waveguide
