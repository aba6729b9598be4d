import Shipwright.Element.Basic
import Shipwright.Ron.Codec

/-!
# Ship classes

The classes with tuned proportions, smallest first. A class is known by its
name; ships of any other class get the proportions of a plain hull.
-/

namespace Shipwright

/-- A class of ships with proportions of its own. -/
inductive ShipClass where
  | frigate
  | destroyer
  | cruiser
  | battlecruiser
  | battleship
  | capital
  deriving DecidableEq, Repr

/-- The proportions of a hull. -/
structure HullProfile (α : Type) where
  /-- How many control points the spine has. -/
  pointCount : Nat
  /-- The length of the hull along x. -/
  length : α
  /-- The radius at the widest point. -/
  maxRadius : α
  deriving Repr

namespace ShipClass

/-- All classes, smallest first. -/
def all : List ShipClass :=
  [.frigate, .destroyer, .cruiser, .battlecruiser, .battleship, .capital]

/-- The name of a class. -/
def label : ShipClass → String
  | .frigate => "Frigate"
  | .destroyer => "Destroyer"
  | .cruiser => "Cruiser"
  | .battlecruiser => "Battlecruiser"
  | .battleship => "Battleship"
  | .capital => "Capital"

instance : Ron.Codec ShipClass := Ron.Codec.tagged label all

/-- The place of a class among all, from the smallest. -/
def rank : ShipClass → Nat
  | .frigate => 0
  | .destroyer => 1
  | .cruiser => 2
  | .battlecruiser => 3
  | .battleship => 4
  | .capital => 5

/-- The class with a given name, if there is one. -/
def ofLabel? (text : String) : Option ShipClass := labelled? label all text

/-- The class with a given name. -/
def ofLabel (text : String) : Except UnknownTag ShipClass :=
  match ofLabel? text with
  | some c => .ok c
  | none => .error ⟨text⟩

/-- The proportions of a class. -/
def profile {α : Type} [Scalar α] : ShipClass → HullProfile α
  | .frigate => ⟨5, 8.0, 1.0⟩
  | .destroyer => ⟨6, 12.0, 1.3⟩
  | .cruiser => ⟨7, 18.0, 2.0⟩
  | .battlecruiser => ⟨8, 24.0, 2.5⟩
  | .battleship => ⟨9, 32.0, 3.5⟩
  | .capital => ⟨12, 60.0, 8.0⟩

/-- The size of the mounts a class carries. -/
def mountSize : ShipClass → MountSize
  | .frigate | .destroyer => .small
  | .cruiser | .battlecruiser => .medium
  | .battleship => .large
  | .capital => .capital

end ShipClass

namespace HullProfile

variable {α : Type} [Scalar α]

/-- The proportions of ships of no known class. -/
def plain : HullProfile α := ⟨5, 10.0, 1.5⟩

/-- The proportions for a class name. -/
def ofClassName (name : String) : HullProfile α :=
  match ShipClass.ofLabel? name with
  | some c => c.profile
  | none => plain

end HullProfile

end Shipwright
