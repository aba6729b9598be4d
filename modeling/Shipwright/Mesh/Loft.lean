import Shipwright.Element.Basic
import Shipwright.Mesh.Basic

/-!
# Lofted hulls

The hull is lofted around its control points: a ring of vertices about each
point, quads between neighbouring rings, and a fan about each end. Fewer than
two points or three segments enclose nothing and give no mesh.
-/

namespace Shipwright

namespace Mesh

namespace Loft

/-- The vertices of the ring about a control point, in its plane across the x axis. -/
def ring {α : Type} [Trigonometric α] (segments : Nat) (p : ControlPoint α) : List (Corner α) :=
  (List.range segments).map fun s =>
    let angle := 2.0 * Trigonometric.pi * Scalar.ofCount s / Scalar.ofCount segments
    let offset : Vec3 α :=
      ⟨0.0, Trigonometric.cos angle * p.radius, Trigonometric.sin angle * p.radius⟩
    ⟨p.position + offset, offset.normalizeOr .unitY⟩

/-- The triangle with three vertex indices. -/
def face (a b c : Nat) : Triangle := (a.toUInt32, b.toUInt32, c.toUInt32)

/-- The two triangles of each quad between a ring and the next one. -/
def wall (segments ring : Nat) : List Triangle :=
  (List.range segments).flatMap fun s =>
    let here := ring * segments + s
    let beside := ring * segments + (s + 1) % segments
    let above := (ring + 1) * segments + s
    let aboveBeside := (ring + 1) * segments + (s + 1) % segments
    [face here above beside, face beside above aboveBeside]

/-- The fan that closes the first ring about a middle vertex. -/
def frontFan (segments : Nat) (middle : UInt32) : List Triangle :=
  (List.range segments).map fun s => (middle, ((s + 1) % segments).toUInt32, s.toUInt32)

/-- The fan that closes the last ring about a middle vertex. -/
def backFan (segments rings : Nat) (middle : UInt32) : List Triangle :=
  let start := (rings - 1) * segments
  (List.range segments).map fun s =>
    (middle, (start + s).toUInt32, (start + (s + 1) % segments).toUInt32)

end Loft

/-- The hull around a spine: all rings with the walls between them, then at the front and at the
back a vertex in the middle and the fan about it. -/
def loft {α : Type} [Trigonometric α] (points : List (ControlPoint α)) (segments : Nat) :
    Mesh α :=
  match points.head?, points.getLast? with
  | some first, some last =>
    if points.length < 2 ∨ segments < 3 then empty
    else
      let walls := ofCorners (points.flatMap (Loft.ring segments))
        ((List.range (points.length - 1)).flatMap (Loft.wall segments))
      let (hull, front) := walls.pushVertex first.position ⟨-1.0, 0.0, 0.0⟩
      let hull := hull.addTriangles (Loft.frontFan segments front)
      let (hull, back) := hull.pushVertex last.position .unitX
      hull.addTriangles (Loft.backFan segments points.length back)
  | _, _ => empty

end Mesh

end Shipwright
