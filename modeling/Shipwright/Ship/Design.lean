import Shipwright.Element.Basic
import Shipwright.Mesh.Basic

/-!
# Ship designs

A design is all that is kept of a ship between sessions: who it is, what its
designer placed on it, and the mesh of its last assembly. The graph that
assembles the mesh is no part of it.
-/

namespace Shipwright

/-- A ship design. -/
structure Design (α : Type) where
  /-- What tells the design from others, and names its file. -/
  id : String
  /-- The name shown for the ship. -/
  name : String
  /-- The name of the ship's class. -/
  className : String
  /-- The seed the defaults were drawn from. -/
  seed : UInt64
  /-- The hull spine. -/
  controlPoints : List (ControlPoint α)
  /-- The weapon mounts. -/
  hardpoints : List (Hardpoint α)
  /-- The lights. -/
  lights : List (Light α)
  /-- The walkable sections. -/
  rooms : List (Room α)
  /-- The attachments of the hull. -/
  features : List (Feature α)
  /-- The mesh of the last assembly. -/
  mesh : Mesh α
  deriving Repr, BEq

namespace Design

variable {α : Type}

/-- The design of nothing. -/
def empty : Design α := ⟨"", "", "", 0, [], [], [], [], [], .empty⟩

instance : Inhabited (Design α) := ⟨empty⟩

/-- A design is valid if it can be told from others and has a hull. -/
def isValid (d : Design α) : Bool := !d.controlPoints.isEmpty && !d.id.isEmpty

/-- A design is valid just if it has a control point and a number. -/
theorem isValid_iff {d : Design α} : d.isValid = true ↔ d.controlPoints ≠ [] ∧ d.id ≠ "" := by
  simp [isValid]

variable [Scalar α]

/-- The extent of the control points along x. -/
def length? (d : Design α) : Option α :=
  match d.controlPoints.map (·.position.x) with
  | [] => none
  | x :: xs => some (xs.foldl Scalar.larger x - xs.foldl Scalar.smaller x)

/-- The largest of some radii, or zero. -/
def largestRadius (cs : List (ControlPoint α)) : α :=
  (cs.map (·.radius)).foldl Scalar.larger 0.0

/-- Twice the largest radius of the control points. -/
def width? (d : Design α) : Option α :=
  if d.controlPoints.isEmpty then none else some (largestRadius d.controlPoints * 2.0)

end Design

end Shipwright
