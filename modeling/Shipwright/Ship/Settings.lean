import Shipwright.Disk.Basic
import Shipwright.Element.Format
import Shipwright.Ship.Defaults

/-!
# Settings for new ships

How fine a hull is lofted, how many slots it has, which features it starts with
and how far learned profiles are followed. A settings file may leave out any
field, which then has its default; a file of a newer version is refused.
-/

namespace Shipwright

open Ron Codec

/-- The settings for new ships. -/
structure Settings (α : Type) where
  /-- The version of the file. -/
  version : UInt32
  /-- The ring resolution of the hull. -/
  segments : UInt32
  /-- The number of turrets. -/
  turretSlots : UInt64
  /-- The number of launchers. -/
  launcherSlots : UInt64
  /-- How far a learned profile is followed: not at all at 0, all the way at 1. -/
  blend : α
  /-- The features a ship starts with. -/
  features : List (Feature α)
  deriving Repr, BEq

/-- Why settings are not saved or loaded. -/
inductive SettingsError where
  /-- The file cannot be read or written. -/
  | disk (error : DiskError)
  /-- The file holds no settings. -/
  | unreadable
  /-- The file is of a newer version. -/
  | unsupportedVersion (found : UInt32)
  deriving DecidableEq, Repr

namespace Settings

variable {α : Type}

/-- The newest version of settings files. -/
def currentVersion : UInt32 := 1

/-- The text shown for a file of a newer version. -/
def versionMessage (found : UInt32) : String :=
  "Settings version " ++ toString found.toNat ++ " is newer than supported version " ++
    toString currentVersion.toNat

/-- The settings where nothing else is said. -/
def standard [Scalar α] : Settings α :=
  { version := currentVersion
    segments := 8
    turretSlots := UInt64.ofNat Defaults.turretSlots
    launcherSlots := UInt64.ofNat Defaults.launcherSlots
    blend := 0.3
    features := [Defaults.fin] }

instance [Scalar α] : Inhabited (Settings α) := ⟨standard⟩

/-- How far a learned profile is followed, between 0 and 1. -/
def clampedBlend [Scalar α] (s : Settings α) : α := Scalar.clamp s.blend 0.0 1.0

/-- The path of the settings file in a folder. -/
def filePath (folder : Path) : Path := folder.join ⟨"hullforge.ron"⟩

variable [Codec α] [Scalar α]

instance : Codec (Settings α) where
  encode s := .record (some "GenerationSettings")
    [("version", encode s.version), ("hull_segments", encode s.segments),
      ("turret_slots", encode s.turretSlots), ("launcher_slots", encode s.launcherSlots),
      ("learning_blend", encode s.blend), ("default_features", encode s.features)]
  decode exts v := do
    let fs ← v.fields? exts "GenerationSettings"
    let d : Settings α := standard
    return ⟨← withDefault exts fs "version" d.version,
      ← withDefault exts fs "hull_segments" d.segments,
      ← withDefault exts fs "turret_slots" d.turretSlots,
      ← withDefault exts fs "launcher_slots" d.launcherSlots,
      ← withDefault exts fs "learning_blend" d.blend,
      ← withDefault exts fs "default_features" d.features⟩

/-- The settings a text holds. -/
def ofText (text : String) : Except SettingsError (Settings α) :=
  match Codec.read (Settings α) text with
  | none => .error .unreadable
  | some s =>
    if currentVersion < s.version then .error (.unsupportedVersion s.version) else .ok s

/-- The disk with settings saved to a file. -/
def save (s : Settings α) (disk : Disk) (p : Path) : Disk × Except SettingsError Unit :=
  let (disk, r) := disk.write p (Codec.write s)
  (disk, r.mapError .disk)

/-- The settings saved in a file. -/
def load (disk : Disk) (p : Path) : Except SettingsError (Settings α) := do
  ofText (← (disk.read p).mapError .disk)

/-- The settings saved in a file, or the standard ones where they cannot be loaded. -/
def loadOrStandard (disk : Disk) (p : Path) : Settings α :=
  match load disk p with
  | .ok s => s
  | .error _ => standard

/-- The settings saved in a folder, or the standard ones. -/
def loadFromFolder (disk : Disk) (folder : Path) : Settings α :=
  loadOrStandard disk (filePath folder)

end Settings

end Shipwright
