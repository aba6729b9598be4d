import Shipwright.Mesh.Basic

/-!
# Light markers

A light is shown as an octahedron about its position, larger outside the ship
than inside.
-/

namespace Shipwright

namespace Mesh

/-- The eight faces of an octahedron over the tips +x, -x, +y, -y, +z, -z. -/
def octahedronFaces : List Triangle :=
  [(0, 2, 4), (0, 4, 3), (0, 3, 5), (0, 5, 2), (1, 4, 2), (1, 3, 4), (1, 5, 3), (1, 2, 5)]

/-- The marker of a light. -/
def marker {α : Type} [Scalar α] (position : Vec3 α) (interior : Bool) : Mesh α :=
  let size : α := if interior then 0.05 else 0.08
  let tips : List (Vec3 α) :=
    [⟨1.0, 0.0, 0.0⟩, ⟨-1.0, 0.0, 0.0⟩, ⟨0.0, 1.0, 0.0⟩, ⟨0.0, -1.0, 0.0⟩, ⟨0.0, 0.0, 1.0⟩,
      ⟨0.0, 0.0, -1.0⟩]
  ofCorners (tips.map fun tip => ⟨position + tip.scale size, tip⟩) octahedronFaces

end Mesh

end Shipwright
