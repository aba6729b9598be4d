import Shipwright.Disk.Basic
import Shipwright.Element.Format
import Shipwright.Mesh.Format
import Shipwright.Ship.Design

/-!
# Files of designs

A design is written as one record in a file named for the design. Only valid
designs are saved, and whatever a file holds, only valid designs are loaded. The
mesh may be left out of a file.
-/

namespace Shipwright

open Ron Codec

instance {α : Type} [Codec α] : Codec (Design α) where
  encode d := .record (some "ShipHullData")
    [("ship_id", encode d.id), ("ship_name", encode d.name), ("ship_class", encode d.className),
      ("seed", encode d.seed), ("control_points", encode d.controlPoints),
      ("hardpoints", encode d.hardpoints), ("lights", encode d.lights),
      ("interiors", encode d.rooms), ("visual_features", encode d.features),
      ("generated_mesh", encode d.mesh)]
  decode exts v := do
    let fs ← v.fields? exts "ShipHullData"
    return ⟨← required exts fs "ship_id", ← required exts fs "ship_name",
      ← required exts fs "ship_class", ← required exts fs "seed",
      ← required exts fs "control_points", ← required exts fs "hardpoints",
      ← required exts fs "lights", ← required exts fs "interiors",
      ← required exts fs "visual_features", ← withDefault exts fs "generated_mesh" .empty⟩

/-- Why a design is not saved or loaded. -/
inductive DesignError where
  /-- The file cannot be read or written. -/
  | disk (error : DiskError)
  /-- The file holds no design. -/
  | unreadable
  /-- The design has no number or no hull. -/
  | invalid (id : String)
  deriving DecidableEq, Repr

/-- The text shown for an invalid design. -/
def DesignError.invalidMessage (id : String) : String := "Invalid ship design '" ++ id ++ "'"

namespace Design

variable {α : Type}

/-- The ending of the names of design files. -/
def fileExtension : String := "ship.ron"

/-- The path of a design's file in a folder. -/
def filePath (d : Design α) (folder : Path) : Path :=
  folder.join ⟨d.id ++ "." ++ fileExtension⟩

/-- The design itself, if it is valid. -/
def validated (d : Design α) : Except DesignError (Design α) :=
  if d.isValid then .ok d else .error (.invalid d.id)

variable [Codec α]

/-- The text of a design's file. -/
def toText (d : Design α) : String := Codec.write d

/-- The design a text holds. -/
def ofText (text : String) : Except DesignError (Design α) :=
  match Codec.read (Design α) text with
  | some d => .ok d
  | none => .error .unreadable

/-- The disk with a design saved to a file. -/
def save (d : Design α) (disk : Disk) (p : Path) : Disk × Except DesignError Unit :=
  match d.validated with
  | .ok d =>
    let (disk, r) := disk.write p d.toText
    (disk, r.mapError .disk)
  | .error e => (disk, .error e)

/-- The design saved in a file. -/
def load (disk : Disk) (p : Path) : Except DesignError (Design α) := do
  let text ← (disk.read p).mapError .disk
  let d ← ofText text
  d.validated

end Design

end Shipwright
