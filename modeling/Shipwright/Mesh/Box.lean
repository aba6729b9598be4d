import Shipwright.Mesh.Basic

/-!
# Boxes and rooms

A box has six quads with four vertices each, so that every face has its own
normals. Solid boxes face outward; a room is a box over its bounds that faces
inward, with the normals negated and the winding turned round.
-/

namespace Shipwright

/-- Which way the faces of a box point. -/
inductive Facing where
  /-- Away from the middle, as on a solid. -/
  | outward
  /-- Towards the middle, as on the walls of a room. -/
  | inward
  deriving DecidableEq, Repr

namespace Mesh

variable {α : Type} [Scalar α]

/-- A quad by its four corners and the normal of its outer side. -/
structure Quad (α : Type) where
  /-- The corners, counterclockwise seen from outside. -/
  corners : List (Vec3 α)
  /-- The outer normal. -/
  normal : Vec3 α
  deriving Repr

/-- The mesh with a quad appended as four vertices and two triangles. -/
def addQuad (facing : Facing) (m : Mesh α) (q : Quad α) : Mesh α :=
  let base := m.nextIndex
  let normal := match facing with
    | .outward => q.normal
    | .inward => -q.normal
  let triangles : List Triangle := match facing with
    | .outward => [(base, base + 1, base + 2), (base, base + 2, base + 3)]
    | .inward => [(base, base + 2, base + 1), (base, base + 3, base + 2)]
  (m.addCorners (q.corners.map fun p => ⟨p, normal⟩)).addTriangles triangles

/-- The faces of the box between two corners: front, back, right, left, top, bottom. -/
def boxQuads (low high : Vec3 α) : List (Quad α) :=
  let ⟨x0, y0, z0⟩ := low
  let ⟨x1, y1, z1⟩ := high
  [ ⟨[⟨x0, y0, z1⟩, ⟨x1, y0, z1⟩, ⟨x1, y1, z1⟩, ⟨x0, y1, z1⟩], ⟨0.0, 0.0, 1.0⟩⟩,
    ⟨[⟨x1, y0, z0⟩, ⟨x0, y0, z0⟩, ⟨x0, y1, z0⟩, ⟨x1, y1, z0⟩], ⟨0.0, 0.0, -1.0⟩⟩,
    ⟨[⟨x1, y0, z1⟩, ⟨x1, y0, z0⟩, ⟨x1, y1, z0⟩, ⟨x1, y1, z1⟩], ⟨1.0, 0.0, 0.0⟩⟩,
    ⟨[⟨x0, y0, z0⟩, ⟨x0, y0, z1⟩, ⟨x0, y1, z1⟩, ⟨x0, y1, z0⟩], ⟨-1.0, 0.0, 0.0⟩⟩,
    ⟨[⟨x0, y1, z1⟩, ⟨x1, y1, z1⟩, ⟨x1, y1, z0⟩, ⟨x0, y1, z0⟩], ⟨0.0, 1.0, 0.0⟩⟩,
    ⟨[⟨x0, y0, z0⟩, ⟨x1, y0, z0⟩, ⟨x1, y0, z1⟩, ⟨x0, y0, z1⟩], ⟨0.0, -1.0, 0.0⟩⟩ ]

/-- The mesh with the box about a centre appended. -/
def appendBox (m : Mesh α) (center half : Vec3 α) (facing : Facing) : Mesh α :=
  (boxQuads (center - half) (center + half)).foldl (addQuad facing) m

/-- The box about a centre. -/
def box (center half : Vec3 α) (facing : Facing) : Mesh α := empty.appendBox center half facing

/-- The walls of a room between two corners. -/
def room (low high : Vec3 α) : Mesh α :=
  box ((low + high).scale 0.5) ((high - low).scale 0.5) .inward

end Mesh

end Shipwright
