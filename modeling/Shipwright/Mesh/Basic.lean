import Shipwright.Vec3

/-!
# Triangle meshes

A mesh is what the renderer takes: flat buffers with three numbers per vertex
position, as many per vertex normal, and three vertex indices per triangle.
Meshes are joined by appending the buffers and shifting the indices of the
second past the vertices of the first.
-/

namespace Shipwright

/-- A flat triangle mesh. -/
structure Mesh (α : Type) where
  /-- The vertex positions, three numbers each. -/
  vertices : List α
  /-- The vertex normals, three numbers each. -/
  normals : List α
  /-- The corners of the triangles, three vertex indices each. -/
  indices : List UInt32
  deriving Repr, BEq

/-- A vertex to be put into a mesh. -/
structure Corner (α : Type) where
  /-- Its position. -/
  position : Vec3 α
  /-- Its normal. -/
  normal : Vec3 α
  deriving Repr, BEq

/-- A triangle by the indices of its corners. -/
abbrev Triangle := UInt32 × UInt32 × UInt32

/-- The three corners in order. -/
def Triangle.toList (t : Triangle) : List UInt32 := [t.1, t.2.1, t.2.2]

namespace Mesh

variable {α : Type}

/-- The mesh without vertices. -/
def empty : Mesh α := ⟨[], [], []⟩

instance : Inhabited (Mesh α) := ⟨empty⟩

/-- The number of vertices. -/
def vertexCount (m : Mesh α) : Nat := m.vertices.length / 3

/-- The number of triangles. -/
def triangleCount (m : Mesh α) : Nat := m.indices.length / 3

/-- Whether there are no vertices. -/
def isEmpty (m : Mesh α) : Bool := m.vertices.isEmpty

/-- The index the next vertex gets; it stays at the largest index once that is passed. -/
def nextIndex (m : Mesh α) : UInt32 := UInt32.ofNatClamp m.vertexCount

/-- The mesh with vertices appended. -/
def addCorners (m : Mesh α) (cs : List (Corner α)) : Mesh α :=
  { m with
    vertices := m.vertices ++ cs.flatMap (·.position.toList)
    normals := m.normals ++ cs.flatMap (·.normal.toList) }

/-- The mesh with triangles appended. -/
def addTriangles (m : Mesh α) (ts : List Triangle) : Mesh α :=
  { m with indices := m.indices ++ ts.flatMap Triangle.toList }

/-- The mesh of given vertices and triangles. -/
def ofCorners (cs : List (Corner α)) (ts : List Triangle) : Mesh α :=
  (empty.addCorners cs).addTriangles ts

/-- The mesh with one vertex appended, and the vertex's index. -/
def pushVertex (m : Mesh α) (position normal : Vec3 α) : Mesh α × UInt32 :=
  (m.addCorners [⟨position, normal⟩], m.nextIndex)

/-- The mesh with another one appended and its indices shifted. -/
def append (m other : Mesh α) : Mesh α :=
  ⟨m.vertices ++ other.vertices, m.normals ++ other.normals,
    m.indices ++ other.indices.map (· + m.nextIndex)⟩

instance : Append (Mesh α) := ⟨append⟩

/-- All meshes of a list joined in order. -/
def join (ms : List (Mesh α)) : Mesh α := ms.foldl append empty

/-- The vector at a place of a flat buffer. -/
def vectorAt? (buffer : List α) (index : Nat) : Option (Vec3 α) :=
  match (buffer.drop (index * 3)).take 3 with
  | [x, y, z] => some ⟨x, y, z⟩
  | _ => none

/-- The position of a vertex. -/
def position? (m : Mesh α) (index : Nat) : Option (Vec3 α) := vectorAt? m.vertices index

/-- The normal of a vertex. -/
def normal? (m : Mesh α) (index : Nat) : Option (Vec3 α) := vectorAt? m.normals index

end Mesh

end Shipwright
