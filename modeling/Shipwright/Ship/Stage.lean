import Shipwright.Graph.Property
import Shipwright.Graph.Execute
import Shipwright.Element.Elements
import Shipwright.Ron.Codec
import Shipwright.Mesh.Loft
import Shipwright.Mesh.Box
import Shipwright.Mesh.Marker
import Shipwright.Mesh.Turret
import Shipwright.Mesh.Wedge

/-!
# Stages of assembly

The node kinds of a ship graph. Generators turn one store of elements into a
mesh: the hull is lofted as a whole, the other generators join one mesh per
element in store order. A merge joins its two inputs, and the output passes its
input on. Every stage yields one mesh on port 0.
-/

namespace Shipwright

/-- A stage in the assembly of a ship. -/
inductive Stage where
  | hullSpline
  | turretMount
  | lightFixture
  | interiorVolume
  | visualAttachment
  | merge
  | output
  deriving DecidableEq, Repr

namespace Stage

/-- All stages. -/
def all : List Stage :=
  [.hullSpline, .turretMount, .lightFixture, .interiorVolume, .visualAttachment, .merge, .output]

/-- The word for a stage in files. -/
def label : Stage → String
  | .hullSpline => "HullSpline"
  | .turretMount => "TurretMount"
  | .lightFixture => "LightFixture"
  | .interiorVolume => "InteriorVolume"
  | .visualAttachment => "VisualAttachment"
  | .merge => "Merge"
  | .output => "Output"

/-- The name shown for a stage. -/
def title : Stage → String
  | .hullSpline => "Hull Spline"
  | .turretMount => "Turret Mount"
  | .lightFixture => "Light Fixture"
  | .interiorVolume => "Interior Volume"
  | .visualAttachment => "Visual Attachment"
  | .merge => "Merge"
  | .output => "Output"

/-- The input ports of a stage: two meshes to merge, one to pass on, none to generate. -/
def inputs : Stage → List Port
  | .merge => [⟨"A", .mesh⟩, ⟨"B", .mesh⟩]
  | .output => [⟨"Mesh", .mesh⟩]
  | _ => []

instance : Ron.Codec Stage := Ron.Codec.tagged label all

instance : NodeFamily Stage where
  name := title
  inputs := inputs
  outputs _ := [⟨"Mesh", .mesh⟩]

/-- The property that sets the ring resolution of the hull. -/
def segmentsProperty : String := "segments"

/-- The ring resolution where the property is unset or malformed. -/
def defaultSegments : Nat := 8

/-- The ring resolution of a hull node; a negative one counts as none. -/
def segments (n : Node Stage) : Nat :=
  (n.parseProperty segmentsProperty (Int32.ofNat defaultSegments)).toInt.toNat

variable {α : Type} [Trigonometric α]

/-- The mesh of one node over the elements of a ship. -/
def mesh (s : Elements α) (n : Node Stage) (inputs : List (Mesh α)) : Mesh α :=
  match n.kind with
  | .hullSpline => Mesh.loft s.controlPoints.items (segments n)
  | .turretMount => .join (s.hardpoints.items.map fun h => .turret h.position h.direction h.size)
  | .lightFixture => .join (s.lights.items.map fun l => .marker l.position l.interior)
  | .interiorVolume => .join (s.rooms.items.map fun r => .room r.low r.high)
  | .visualAttachment => .join (s.features.items.map .wedge)
  | .merge =>
    match inputs with
    | a :: b :: _ => a ++ b
    | _ => inputs.headD default
  | .output => inputs.headD default

/-- What the nodes of a ship graph compute. -/
def evaluator (s : Elements α) : Evaluator Stage (Mesh α) :=
  fun n inputs => .single (mesh s n inputs)

end Stage

end Shipwright
