import Shipwright.Vec3
import Shipwright.Element.Id

/-!
# Elements of a ship

What a designer places on a ship: the control points of the hull spine, weapon
hardpoints, lights, walkable rooms and features attached to the hull. Closed
sets of tags say what a hardpoint carries or which kind of light shines.
-/

namespace Shipwright

/-- A tag that is none of the known ones. -/
structure UnknownTag where
  /-- The tag as it was given. -/
  text : String
  deriving DecidableEq, Repr

/-- The text shown for an unknown tag. -/
def UnknownTag.message (e : UnknownTag) : String := "Unknown tag: " ++ e.text

/-- The member of a list that has a given label. -/
def labelled? {τ : Type} (label : τ → String) (all : List τ) (text : String) : Option τ :=
  all.find? (label · = text)

/-- The size class of a weapon mount. -/
inductive MountSize where
  | small
  | medium
  | large
  | capital
  deriving DecidableEq, Repr, Inhabited

namespace MountSize

/-- All sizes, smallest first. -/
def all : List MountSize := [.small, .medium, .large, .capital]

/-- The word for a size. -/
def label : MountSize → String
  | .small => "small"
  | .medium => "medium"
  | .large => "large"
  | .capital => "capital"

/-- The size with a given word. -/
def ofLabel (text : String) : Except UnknownTag MountSize :=
  match labelled? label all text with
  | some size => .ok size
  | none => .error ⟨text⟩

/-- The radius at the foot and the height of a mount. -/
def dimensions {α : Type} [Scalar α] : MountSize → α × α
  | .small => (0.15, 0.2)
  | .medium => (0.25, 0.3)
  | .large => (0.4, 0.45)
  | .capital => (0.6, 0.6)

end MountSize

/-- What a hardpoint carries. -/
inductive WeaponType where
  | turret
  | launcher
  | utility
  deriving DecidableEq, Repr, Inhabited

namespace WeaponType

/-- All weapon types. -/
def all : List WeaponType := [.turret, .launcher, .utility]

/-- The word for a weapon type. -/
def label : WeaponType → String
  | .turret => "turret"
  | .launcher => "launcher"
  | .utility => "utility"

end WeaponType

/-- How a light shines. -/
inductive LightKind where
  | point
  | spot
  | ambient
  deriving DecidableEq, Repr, Inhabited

namespace LightKind

/-- All kinds of light. -/
def all : List LightKind := [.point, .spot, .ambient]

/-- The word for a kind of light. -/
def label : LightKind → String
  | .point => "point"
  | .spot => "spot"
  | .ambient => "ambient"

end LightKind

/-- What a feature attached to the hull is. -/
inductive FeatureKind where
  | fin
  | antenna
  | vent
  | intake
  | wing
  | nacelle
  deriving DecidableEq, Repr, Inhabited

namespace FeatureKind

/-- All kinds of features. -/
def all : List FeatureKind := [.fin, .antenna, .vent, .intake, .wing, .nacelle]

/-- The word for a kind of feature. -/
def label : FeatureKind → String
  | .fin => "fin"
  | .antenna => "antenna"
  | .vent => "vent"
  | .intake => "intake"
  | .wing => "wing"
  | .nacelle => "nacelle"

end FeatureKind

/-- A point of the spine around which the hull is lofted. -/
structure ControlPoint (α : Type) where
  /-- The element number. -/
  id : ElementId
  /-- The place on the spine. -/
  position : Vec3 α
  /-- The radius of the cross-section. -/
  radius : α
  /-- The weight in the curvature of the spine. -/
  weight : α
  deriving Repr, BEq

/-- A place for a weapon or a utility module. -/
structure Hardpoint (α : Type) where
  /-- The element number. -/
  id : ElementId
  /-- The place of the mount. -/
  position : Vec3 α
  /-- Where the mount aims. -/
  direction : Vec3 α
  /-- The size class. -/
  size : MountSize
  /-- What is mounted. -/
  weapon : WeaponType
  deriving Repr, BEq

/-- A light inside or outside the ship. -/
structure Light (α : Type) where
  /-- The element number. -/
  id : ElementId
  /-- The place of the light. -/
  position : Vec3 α
  /-- Red, green and blue between 0 and 1. -/
  color : Vec3 α
  /-- The brightness. -/
  intensity : α
  /-- The reach. -/
  range : α
  /-- How it shines. -/
  kind : LightKind
  /-- Inside the ship, as opposed to a navigation light. -/
  interior : Bool
  deriving Repr, BEq

/-- A walkable section of the ship. -/
structure Room (α : Type) where
  /-- The element number. -/
  id : ElementId
  /-- The name of the section. -/
  name : String
  /-- The lower corner of the bounds. -/
  low : Vec3 α
  /-- The upper corner of the bounds. -/
  high : Vec3 α
  /-- Whether the ship can be flown from here. -/
  cockpit : Bool
  deriving Repr, BEq

/-- A feature attached to the hull. -/
structure Feature (α : Type) where
  /-- The element number. -/
  id : ElementId
  /-- What it is. -/
  kind : FeatureKind
  /-- Where it is attached. -/
  position : Vec3 α
  /-- The stretch along each axis. -/
  scale : Vec3 α
  /-- The turn about the vertical axis in degrees. -/
  rotation : α
  deriving Repr, BEq

section Defaults

variable {α : Type} [Scalar α]

/-- A control point without a number and with unit weight. -/
def ControlPoint.at (position : Vec3 α) (radius : α) : ControlPoint α :=
  ⟨default, position, radius, 1.0⟩

/-- A room without a number and without a cockpit. -/
def Room.within (name : String) (low high : Vec3 α) : Room α := ⟨default, name, low, high, false⟩

/-- The middle of the bounds. -/
def Room.center (r : Room α) : Vec3 α := (r.low + r.high).scale 0.5

instance : Inhabited (ControlPoint α) := ⟨.at .zero 0.5⟩

instance : Inhabited (Hardpoint α) := ⟨⟨default, .zero, .unitY, .small, .turret⟩⟩

instance : Inhabited (Light α) := ⟨⟨default, .zero, .splat 1.0, 1.0, 10.0, .point, true⟩⟩

instance : Inhabited (Room α) := ⟨.within "" .zero .zero⟩

instance : Inhabited (Feature α) := ⟨⟨default, .fin, .zero, .splat 1.0, 0.0⟩⟩

end Defaults

end Shipwright
