import Shipwright.Ship.DesignFile
import Shipwright.Ship.Library
import Shipwright.Ship.Pipeline

/-!
# Edit sessions

A session is one ship being worked on under its name, class and settings. Edits
go through the session, which records them in the history and knows whether the
design has changed since it was opened or saved. An edit of an element that does
not exist is refused and changes nothing.
-/

namespace Shipwright

/-- Why no mesh is generated. -/
inductive GenerateError where
  /-- The graph does not compile. -/
  | compile (error : CompileError)
  /-- The graph does not execute. -/
  | execute (error : ExecuteError)
  deriving DecidableEq, Repr

/-- The text shown for an error of generation. -/
def GenerateError.message : GenerateError → String
  | .compile e => e.message
  | .execute e => e.message

/-- A ship being worked on. -/
structure Session (α : Type) where
  /-- What tells the design from others. -/
  id : String
  /-- The name shown for the ship. -/
  name : String
  /-- The name of the ship's class. -/
  className : String
  /-- The seed the defaults were drawn from. -/
  seed : UInt64
  /-- The ship under construction. -/
  assembly : Assembly α
  /-- The settings the ship was opened with. -/
  settings : Settings α
  /-- Whether the design has changed since it was opened or saved. -/
  dirty : Bool

namespace Session

variable {α : Type}

/-- A new ship of some class under a number of its own, with the seeded defaults. -/
def newShip [Scalar α] (id className : String) (seed : UInt64) (settings : Settings α) :
    Session α :=
  { id
    name := "New " ++ className
    className
    seed
    assembly := ((Assembly.empty.generate seed className settings).usePipeline
      settings.segments).1
    settings
    dirty := true }

/-- The ship of a design, which must be valid. -/
def ofDesign (d : Design α) (settings : Settings α) : Except DesignError (Session α) := do
  let d ← d.validated
  return { id := d.id
           name := d.name
           className := d.className
           seed := d.seed
           assembly := ((Assembly.empty.importDesign d).usePipeline settings.segments).1
           settings
           dirty := false }

/-- The design of the ship as it is, with the mesh of the last generation. -/
def toDesign (s : Session α) : Design α :=
  { s.assembly.exportDesign with
    id := s.id
    name := s.name
    className := s.className
    seed := s.seed }

/-- The session marked as clean. -/
def markClean (s : Session α) : Session α := { s with dirty := false }

/-- The session and the disk with the design saved in a folder, and the path of the file. The
session is clean once the file is written. -/
def saveTo [Ron.Codec α] (s : Session α) (disk : Disk) (folder : Path) :
    Session α × Disk × Except DesignError Path :=
  let p := s.toDesign.filePath folder
  match s.toDesign.save disk p with
  | (disk, .ok _) => (s.markClean, disk, .ok p)
  | (disk, .error e) => (s, disk, .error e)

/-- Generates the mesh: compiles the graph where that is due, and executes it. A graph without
output yields the empty mesh. -/
def generate [Trigonometric α] (s : Session α) : Session α × Except GenerateError (Mesh α) :=
  match if s.assembly.compiled then (s.assembly, .ok ()) else s.assembly.compile with
  | (assembly, .error e) => ({ s with assembly }, .error (.compile e))
  | (assembly, .ok _) =>
    match assembly.execute with
    | (assembly, .error e) => ({ s with assembly }, .error (.execute e))
    | (assembly, .ok _) => ({ s with assembly }, .ok (assembly.output?.getD .empty))

/-- The session with the ship renamed. -/
def rename (s : Session α) (name : String) : Session α := { s with name, dirty := true }

/-- Whether some room has a cockpit. -/
def hasCockpit (s : Session α) : Bool := s.assembly.elements.rooms.items.any (·.cockpit)

/-- The library with the ship learned from. -/
def learnInto [Scalar α] (s : Session α) (l : ProfileLibrary α) : ProfileLibrary α :=
  l.incorporate s.toDesign

/-- The hull brought towards the learned profile of its class, and whether there is one. -/
def applyLearning [Scalar α] (s : Session α) (l : ProfileLibrary α) : Session α × Bool :=
  match l.get? s.className with
  | some p =>
    ({ s with assembly := s.assembly.applyProfile p s.settings.clampedBlend, dirty := true }, true)
  | none => (s, false)

section Editing

/-- The session after an edit of the assembly. An edit that found its element is recorded with
the value before and after; one that did not is refused. -/
def recorded (s : Session α) (kind : EditKind) (id : ElementId) (after : Vec3 α) (now : UInt64) :
    Assembly α × Option (Vec3 α) → Session α × Bool
  | (assembly, some before) =>
    ({ s with
        assembly := assembly.record ⟨kind, s.className, id, before, after, now⟩
        dirty := true }, true)
  | (assembly, none) => ({ s with assembly }, false)

variable {ε : Type} [Element ε] [Fitting α ε]

/-- Adds an element without recording the edit. -/
def place (s : Session α) (e : ε) : Session α × ElementId :=
  let (assembly, id) := s.assembly.add e
  ({ s with assembly, dirty := true }, id)

variable [Scalar α]

/-- Adds an element and records the edit as one that leads from the origin. -/
def mount [Placed ε α] (s : Session α) (kind : EditKind) (e : ε) (now : UInt64) :
    Session α × ElementId :=
  let (assembly, id) := s.assembly.add e
  ((s.recorded kind id (Placed.position e) now (assembly, some .zero)).1, id)

/-- Removes an element and records the edit as one that leads to the origin. -/
def remove (s : Session α) (site : ε → Vec3 α) (id : ElementId) (now : UInt64) :
    Session α × Bool :=
  let (assembly, e) := s.assembly.remove ε id
  s.recorded .removeElement id .zero now (assembly, e.map site)

/-- Adds a control point at the end of the spine. -/
def addControlPoint (s : Session α) (e : ControlPoint α) : Session α × ElementId := s.place e

/-- Adds a hardpoint. -/
def addHardpoint (s : Session α) (e : Hardpoint α) (now : UInt64) : Session α × ElementId :=
  s.mount .addHardpoint e now

/-- Adds a light. -/
def addLight (s : Session α) (e : Light α) (now : UInt64) : Session α × ElementId :=
  s.mount .addLight e now

/-- Adds a room. -/
def addRoom (s : Session α) (e : Room α) : Session α × ElementId := s.place e

/-- Adds a feature. -/
def addFeature (s : Session α) (e : Feature α) : Session α × ElementId := s.place e

/-- Removes a control point. -/
def removeControlPoint (s : Session α) (id : ElementId) (now : UInt64) : Session α × Bool :=
  s.remove ControlPoint.position id now

/-- Removes a hardpoint. -/
def removeHardpoint (s : Session α) (id : ElementId) (now : UInt64) : Session α × Bool :=
  s.remove Hardpoint.position id now

/-- Removes a light. -/
def removeLight (s : Session α) (id : ElementId) (now : UInt64) : Session α × Bool :=
  s.remove Light.position id now

/-- Removes a room; the edit is recorded at its middle. -/
def removeRoom (s : Session α) (id : ElementId) (now : UInt64) : Session α × Bool :=
  s.remove Room.center id now

/-- Removes a feature. -/
def removeFeature (s : Session α) (id : ElementId) (now : UInt64) : Session α × Bool :=
  s.remove Feature.position id now

/-- Moves an element and records the edit. -/
def move (ε : Type) [Element ε] [Fitting α ε] [Placed ε α] (s : Session α) (kind : EditKind)
    (id : ElementId) (position : Vec3 α) (now : UInt64) : Session α × Bool :=
  s.recorded kind id position now (s.assembly.move ε id position)

/-- Moves a control point. -/
def moveControlPoint (s : Session α) (id : ElementId) (position : Vec3 α) (now : UInt64) :
    Session α × Bool :=
  s.move (ControlPoint α) .moveControlPoint id position now

/-- Moves a hardpoint. -/
def moveHardpoint (s : Session α) (id : ElementId) (position : Vec3 α) (now : UInt64) :
    Session α × Bool :=
  s.move (Hardpoint α) .moveHardpoint id position now

/-- Moves a light. -/
def moveLight (s : Session α) (id : ElementId) (position : Vec3 α) (now : UInt64) :
    Session α × Bool :=
  s.move (Light α) .moveLight id position now

/-- A radius as the value of an edit. -/
def radiusValue (radius : α) : Vec3 α := ⟨radius, 0.0, 0.0⟩

/-- Resizes a control point. -/
def setRadius (s : Session α) (id : ElementId) (radius : α) (now : UInt64) : Session α × Bool :=
  let (assembly, before) := s.assembly.setRadius id radius
  s.recorded .resizeControlPoint id (radiusValue radius) now (assembly, before.map radiusValue)

end Editing

/-- One line about the ship: its class, its name if it has one, what is placed on it, and whether
it has been changed. -/
def summary (s : Session α) : String :=
  let e := s.assembly.elements
  s.className ++ (if s.name.isEmpty then "" else " '" ++ s.name ++ "'") ++
    ": " ++ toString e.controlPoints.size ++ " hull points, " ++
    toString e.hardpoints.size ++ " hardpoints, " ++
    toString e.lights.size ++ " lights, " ++
    toString e.rooms.size ++ " rooms, " ++
    toString e.features.size ++ " features" ++
    (if s.dirty then " (modified)" else "")

end Session

end Shipwright
