import Shipwright.Element.Basic
import Shipwright.Mesh.Basic

/-!
# Weapon mounts

A mount is a tapered six-sided base with a barrel tip in the direction of aim:
two rings, six quads between them, and a fan from the upper ring to the tip.
-/

namespace Shipwright

namespace Mesh

namespace Turret

/-- The number of sides of a mount. -/
def sides : Nat := 6

/-- A ring of the mount: its radius, its height above the foot and the tilt of its normals. -/
def ring {α : Type} [Trigonometric α] (position : Vec3 α) (radius lift tilt : α) :
    List (Corner α) :=
  (List.range sides).map fun i =>
    let angle := 2.0 * Trigonometric.pi * Scalar.ofCount i / Scalar.ofCount sides
    let sin := Trigonometric.sin angle
    let cos := Trigonometric.cos angle
    ⟨position + ⟨cos * radius, lift, sin * radius⟩, Vec3.normalizeOr ⟨cos, tilt, sin⟩ .unitY⟩

/-- The two triangles of each quad between the rings. -/
def walls : List Triangle :=
  (List.range sides).flatMap fun i =>
    let here := i.toUInt32
    let beside := ((i + 1) % sides).toUInt32
    let above := (sides + i).toUInt32
    let aboveBeside := (sides + (i + 1) % sides).toUInt32
    [(here, beside, above), (above, beside, aboveBeside)]

/-- The fan of the barrel, from the upper ring to the vertex of its tip. -/
def barrel (tip : UInt32) : List Triangle :=
  (List.range sides).map fun i =>
    ((sides + i).toUInt32, (sides + (i + 1) % sides).toUInt32, tip)

end Turret

/-- The mount of a hardpoint. -/
def turret {α : Type} [Trigonometric α] (position direction : Vec3 α) (size : MountSize) :
    Mesh α :=
  let (radius, height) : α × α := size.dimensions
  let aim := direction.normalizeOr .unitY
  let tip := position + ⟨0.0, height, 0.0⟩ + aim.scale (height * 1.5)
  let base := ofCorners
    (Turret.ring position radius 0.0 0.0 ++ Turret.ring position (radius * 0.7) height 0.3)
    Turret.walls
  let (mount, tip) := base.pushVertex tip aim
  mount.addTriangles (Turret.barrel tip)

end Mesh

end Shipwright
