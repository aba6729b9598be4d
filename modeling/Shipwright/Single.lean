import Shipwright.Scalar

/-!
# Single precision

Ships that are saved and rendered are measured in single precision. A `Single`
is a float by its bit pattern, so that a non-number keeps its sign, which a
file shows. Arithmetic on numbers is that of the machine's floats. An operation
on a non-number answers the first non-number among its operands; one that comes
out of numbers, as infinity less infinity does, carries a minus sign.
-/

namespace Shipwright

/-- A single-precision float. -/
structure Single where
  /-- The sign, the exponent and the fraction. -/
  bits : UInt32
  deriving Repr

namespace Single

/-- The bit pattern without the sign. -/
def magnitude (x : Single) : UInt32 := x.bits &&& 0x7FFFFFFF

/-- Whether a float is no number. -/
def isNaN (x : Single) : Bool := 0x7F800000 < x.magnitude

/-- Whether a float is a number and not infinite. -/
def isFinite (x : Single) : Bool := x.magnitude < 0x7F800000

/-- The float of the machine. -/
def toFloat32 (x : Single) : Float32 := Float32.ofBits x.bits

/-- The outcome of an operation of the machine on numbers. -/
def ofFloat32 (x : Float32) : Single := ⟨if x.isNaN then 0xFFC00000 else x.toBits⟩

/-- An operation of the machine on one float. -/
def map (a : Single) (f : Float32 → Float32) : Single :=
  if a.isNaN then a else ofFloat32 (f a.toFloat32)

/-- An operation of the machine on two floats. -/
def map₂ (a : Single) (f : Float32 → Float32 → Float32) (b : Single) : Single :=
  if a.isNaN then a else if b.isNaN then b else ofFloat32 (f a.toFloat32 b.toFloat32)

/-- A non-number goes through an operation unchanged. -/
theorem map_of_isNaN {f : Float32 → Float32} {a : Single} (h : a.isNaN = true) : a.map f = a := by
  simp [map, h]

/-- Of two operands the first non-number is the result. -/
theorem map₂_of_isNaN_left {f : Float32 → Float32 → Float32} {a b : Single}
    (h : a.isNaN = true) : a.map₂ f b = a := by
  simp [map₂, h]

end Single

/-- Floats are compared as numbers: the zeros are equal, and a non-number differs from itself. -/
instance : Scalar Single where
  add a b := a.map₂ (· + ·) b
  sub a b := a.map₂ (· - ·) b
  mul a b := a.map₂ (· * ·) b
  div a b := a.map₂ (· / ·) b
  neg a := ⟨a.bits ^^^ 0x80000000⟩
  ofScientific m s e := .ofFloat32 (OfScientific.ofScientific m s e)
  lt a b := a.toFloat32 < b.toFloat32
  beq a b := a.toFloat32 == b.toFloat32
  ofCount n := .ofFloat32 (Float32.ofNat n)
  decideLT a b := Float32.decLt a.toFloat32 b.toFloat32

/-- `pi` and `degree` are the floats nearest to π and π/180. -/
instance : Trigonometric Single where
  pi := ⟨0x40490fdb⟩
  degree := ⟨0x3c8efa35⟩
  sqrt a := a.map Float32.sqrt
  sin a := a.map Float32.sin
  cos a := a.map Float32.cos
  isFinite := Single.isFinite

end Shipwright
