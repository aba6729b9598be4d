import Shipwright.Scalar

/-!
# Vectors and yaw

Positions, directions and colours are triples of scalars. `normalizeOr` is the
only partial operation: a vector whose length has no positive finite reciprocal
is replaced by a given direction. A `Yaw` is a unit quaternion about the
vertical axis, applied with its full cross product so that signed zeros and
non-numbers spread as in the general rotation.
-/

namespace Shipwright

/-- A triple of scalars along the x, y and z axes. -/
structure Vec3 (α : Type) where
  /-- Fore and aft. -/
  x : α
  /-- Up and down. -/
  y : α
  /-- Port and starboard. -/
  z : α
  deriving Repr, BEq

namespace Vec3

variable {α : Type}

/-- The three components in order. -/
def toList (v : Vec3 α) : List α := [v.x, v.y, v.z]

@[simp] theorem length_toList (v : Vec3 α) : v.toList.length = 3 := rfl

/-- A vector with one value on all axes. -/
def splat (a : α) : Vec3 α := ⟨a, a, a⟩

section Scalar

variable [Scalar α]

/-- The origin. -/
def zero : Vec3 α := splat 0.0

/-- The unit vector along x. -/
def unitX : Vec3 α := ⟨1.0, 0.0, 0.0⟩

/-- The unit vector along y. -/
def unitY : Vec3 α := ⟨0.0, 1.0, 0.0⟩

/-- The unit vector along z. -/
def unitZ : Vec3 α := ⟨0.0, 0.0, 1.0⟩

instance : Inhabited (Vec3 α) := ⟨zero⟩

instance : Add (Vec3 α) := ⟨fun a b => ⟨a.x + b.x, a.y + b.y, a.z + b.z⟩⟩

instance : Sub (Vec3 α) := ⟨fun a b => ⟨a.x - b.x, a.y - b.y, a.z - b.z⟩⟩

instance : Neg (Vec3 α) := ⟨fun a => ⟨-a.x, -a.y, -a.z⟩⟩

/-- Every component times one scalar. -/
def scale (v : Vec3 α) (s : α) : Vec3 α := ⟨v.x * s, v.y * s, v.z * s⟩

/-- The sum of the products of like components. -/
def dot (a b : Vec3 α) : α := a.x * b.x + a.y * b.y + a.z * b.z

/-- The vector product. -/
def cross (a b : Vec3 α) : Vec3 α :=
  ⟨a.y * b.z - b.y * a.z, a.z * b.x - b.z * a.x, a.x * b.y - b.x * a.y⟩

end Scalar

/-- The vector divided by its length, or a fallback where the length has no positive
finite reciprocal. -/
def normalizeOr [Trigonometric α] (v fallback : Vec3 α) : Vec3 α :=
  let reciprocal := 1.0 / Trigonometric.sqrt (v.dot v)
  if Trigonometric.isFinite reciprocal ∧ (0.0 : α) < reciprocal then v.scale reciprocal
  else fallback

end Vec3

/-- A turn, as the vector and scalar part of a unit quaternion. -/
structure Yaw (α : Type) where
  /-- The vector part: the axis times the sine of half the angle. -/
  axis : Vec3 α
  /-- The scalar part: the cosine of half the angle. -/
  real : α
  deriving Repr, BEq

namespace Yaw

variable {α : Type}

/-- The turn about the y axis by an angle in degrees. -/
def ofDegrees [Trigonometric α] (angle : α) : Yaw α :=
  let half := angle * Trigonometric.degree * 0.5
  ⟨⟨0.0, Trigonometric.sin half, 0.0⟩, Trigonometric.cos half⟩

/-- The turned vector: `v (w² − b·b) + b (2 v·b) + 2 w (b × v)` for axis `b` and real part `w`. -/
def apply [Scalar α] (q : Yaw α) (v : Vec3 α) : Vec3 α :=
  let b := q.axis
  let w := q.real
  v.scale (w * w - b.dot b) + b.scale (v.dot b * 2.0) + (b.cross v).scale (w * 2.0)

end Yaw

end Shipwright
