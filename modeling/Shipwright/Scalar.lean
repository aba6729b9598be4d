/-!
# Numbers a hull is measured in

Every length, colour and average of a ship is a `Scalar`: a type with the four
operations, decimal literals and a decidable order. Ships that are saved and
rendered use single-precision floats, but nothing in the rules of averaging,
scaling or boxing depends on rounding, so the rules are stated over any scalar.
`Trigonometric` adds what only curved parts need: roots, sines and cosines.
-/

namespace Shipwright

/-- A number type with decimal literals, the four operations and a decidable order. -/
class Scalar (α : Type) extends Add α, Sub α, Mul α, Div α, Neg α, OfScientific α, LT α,
    BEq α where
  /-- The scalar nearest to a count. -/
  ofCount : Nat → α
  /-- The order is decided by computation. -/
  decideLT : DecidableLT α

instance Scalar.instDecidableLT {α : Type} [Scalar α] : DecidableLT α := Scalar.decideLT

namespace Scalar

variable {α : Type} [Scalar α]

/-- Whether one scalar is less than another or equal to it. -/
def atMost (a b : α) : Bool := a < b || a == b

/-- The larger of two scalars, and the second of two equal ones; an operand that differs from
itself is passed over. -/
def larger (a b : α) : α := if !(a == a) || atMost a b then b else a

/-- The smaller of two scalars, and the second of two equal ones; an operand that differs from
itself is passed over. -/
def smaller (a b : α) : α := if !(a == a) || atMost b a then b else a

/-- The nearest scalar between two bounds; a scalar that compares with neither stays. -/
def clamp (x low high : α) : α :=
  let raised := if x < low then low else x
  if high < raised then high else raised

end Scalar

/-- A scalar type with the functions that rings, cones and turned parts need. -/
class Trigonometric (α : Type) extends Scalar α where
  /-- Half a turn in radians. -/
  pi : α
  /-- One degree in radians. -/
  degree : α
  /-- The square root. -/
  sqrt : α → α
  /-- The sine of an angle in radians. -/
  sin : α → α
  /-- The cosine of an angle in radians. -/
  cos : α → α
  /-- Whether a scalar is an ordinary number rather than an infinity or no number at all. -/
  isFinite : α → Bool

end Shipwright
