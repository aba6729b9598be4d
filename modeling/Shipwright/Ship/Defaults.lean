import Shipwright.XorShift
import Shipwright.Ship.Class

/-!
# Seeded defaults

The elements a new ship of some class starts with. Control points and
hardpoints are drawn from their own salted streams, rooms and lights are fixed
for a class. Nothing here has an element number yet.
-/

namespace Shipwright

namespace Defaults

variable {α : Type} [Scalar α]

/-- The number of turrets unless the settings say otherwise. -/
def turretSlots : Nat := 3

/-- The number of launchers unless the settings say otherwise. -/
def launcherSlots : Nat := 1

/-- Where the `i`-th of `n` evenly spread places lies between 0 and 1; a single one lies midway. -/
def spread (i n : Nat) : α :=
  if 1 < n then Scalar.ofCount i / Scalar.ofCount (n - 1) else 0.5

/-- The `i`-th control point: spread along x, a little off the axis, bulging amidships. -/
def controlPoint (profile : HullProfile α) (i : Nat) (s : XorShift) :
    ControlPoint α × XorShift :=
  let half := profile.length / 2.0
  let t : α := spread i profile.pointCount
  let x := -half + t * profile.length
  let (y, s) := s.nextBetween (-0.2) 0.2
  let (z, s) := s.nextBetween (-0.1) 0.1
  let bulge := 4.0 * t * (1.0 - t)
  let (r, s) := s.nextBetween 0.8 1.2
  (.at ⟨x, y, z⟩ (Scalar.larger (profile.maxRadius * bulge * r) 0.1), s)

/-- The control points of a new hull. -/
def controlPoints (seed : UInt64) (className : String) : List (ControlPoint α) :=
  let profile : HullProfile α := .ofClassName className
  (XorShift.draws (controlPoint profile) 0 profile.pointCount
    (.salted seed XorShift.controlPointSalt)).1

/-- The `i`-th of `n` turrets: in a row along x on top of the hull. -/
def turret (size : MountSize) (n i : Nat) (s : XorShift) : Hardpoint α × XorShift :=
  let span : α := 2.0 * Scalar.ofCount (n - 1)
  let x := -span / 2.0 + spread i n * span
  let (dy, s) := s.nextBetween 0.0 0.3
  let (z, s) := s.nextBetween (-0.2) 0.2
  (⟨default, ⟨x, 1.0 + dy, z⟩, .unitY, size, .turret⟩, s)

/-- A launcher: somewhere under the hull. -/
def launcher (size : MountSize) (_ : Nat) (s : XorShift) : Hardpoint α × XorShift :=
  let (x, s) := s.nextBetween (-1.0) 1.0
  let (z, s) := s.nextBetween (-0.5) 0.5
  (⟨default, ⟨x, -0.5, z⟩, .unitX, size, .launcher⟩, s)

/-- The hardpoints of a new ship: turrets first, then launchers, from one stream. -/
def hardpoints (seed : UInt64) (className : String) (turrets launchers : Nat) :
    List (Hardpoint α) :=
  let size := ((ShipClass.ofLabel? className).map ShipClass.mountSize).getD .small
  let (above, s) := XorShift.draws (turret size turrets) 0 turrets
    (.salted seed XorShift.hardpointSalt)
  above ++ (XorShift.draws (launcher size) 0 launchers s).1

/-- Whether a class is known and at least as large as another. -/
def atLeast (least : ShipClass) (c : Option ShipClass) : Bool := c.any (least.rank ≤ ·.rank)

/-- The rooms of a new ship. -/
def rooms (className : String) : List (Room α) :=
  let c := ShipClass.ofLabel? className
  let frigate := c = some .frigate
  let cockpitLength : α := if frigate then 2.0 else 4.0
  let engineLength : α := if frigate then 2.0 else 5.0
  let cockpit : Room α :=
    { Room.within "cockpit" ⟨-cockpitLength / 2.0 - 3.0, -0.5, -1.0⟩
        ⟨-cockpitLength / 2.0, 1.5, 1.0⟩ with cockpit := true }
  let engine : Room α :=
    .within "engine_room" ⟨engineLength / 2.0 - 3.0, -1.0, -1.5⟩ ⟨engineLength / 2.0, 1.0, 1.5⟩
  let cargo : Room α := .within "cargo_bay" ⟨-1.0, -1.5, -2.0⟩ ⟨3.0, 0.5, 2.0⟩
  let quarters : Room α := .within "crew_quarters" ⟨-3.0, -0.5, -1.5⟩ ⟨-1.0, 1.5, 1.5⟩
  let bridge : Room α :=
    { Room.within "bridge" ⟨-5.0, 2.0, -2.0⟩ ⟨-2.0, 4.0, 2.0⟩ with cockpit := true }
  [cockpit, engine] ++ (if frigate then [] else [cargo]) ++
    (if atLeast .cruiser c then [quarters] else []) ++
    (if atLeast .battleship c then [bridge] else [])

/-- The lights of a new ship: cockpit, engine, port and starboard, and ambient light on anything
that is not a frigate. -/
def lights (className : String) : List (Light α) :=
  let small : List (Light α) :=
    [ ⟨default, ⟨-3.0, 1.0, 0.0⟩, ⟨0.9, 0.9, 1.0⟩, 0.8, 3.0, .point, true⟩,
      ⟨default, ⟨3.0, 0.5, 0.0⟩, ⟨1.0, 0.7, 0.4⟩, 0.6, 4.0, .point, true⟩,
      ⟨default, ⟨0.0, 0.0, -1.5⟩, ⟨1.0, 0.0, 0.0⟩, 1.0, 15.0, .point, false⟩,
      ⟨default, ⟨0.0, 0.0, 1.5⟩, ⟨0.0, 1.0, 0.0⟩, 1.0, 15.0, .point, false⟩ ]
  let ambient : Light α :=
    ⟨default, ⟨0.0, 0.5, 0.0⟩, ⟨0.8, 0.8, 0.9⟩, 0.5, 5.0, .ambient, true⟩
  if ShipClass.ofLabel? className = some .frigate then small else small ++ [ambient]

/-- The fin on the back that every new ship starts with. -/
def fin : Feature α := ⟨default, .fin, ⟨0.0, 1.5, 0.0⟩, ⟨0.3, 0.8, 1.0⟩, 0.0⟩

end Defaults

end Shipwright
