import Shipwright.Disk.Basic
import Shipwright.Ship.Profile

/-!
# Profile libraries

A library keeps one learned profile for each class it has seen, in the order in
which the classes were first seen, and is kept in one file.
-/

namespace Shipwright

open Ron Codec

/-- Learned profiles by the names of their classes. -/
structure ProfileLibrary (α : Type) where
  /-- The profiles in the order of their first designs. -/
  profiles : OrderedMap String (LearnedProfile α)

instance {α : Type} [Codec α] : Codec (ProfileLibrary α) where
  encode l := .record (some "ProfileLibrary") [("profiles", encode l.profiles)]
  decode exts v := do
    let fs ← v.fields? exts "ProfileLibrary"
    return ⟨← required exts fs "profiles"⟩

/-- Why a library is not saved or loaded. -/
inductive LibraryError where
  /-- The file cannot be read or written. -/
  | disk (error : DiskError)
  /-- The file holds no library. -/
  | unreadable
  deriving DecidableEq, Repr

namespace ProfileLibrary

variable {α : Type}

/-- The library that has seen nothing. -/
def empty : ProfileLibrary α := ⟨.empty⟩

instance : Inhabited (ProfileLibrary α) := ⟨empty⟩

/-- The profile of a class. -/
def get? (l : ProfileLibrary α) (className : String) : Option (LearnedProfile α) :=
  l.profiles.get? className

/-- The profiles in the order of their first designs. -/
def toList (l : ProfileLibrary α) : List (LearnedProfile α) := l.profiles.values

/-- The number of classes seen. -/
def size (l : ProfileLibrary α) : Nat := l.profiles.size

/-- Whether nothing has been seen. -/
def isEmpty (l : ProfileLibrary α) : Bool := l.profiles.entries.isEmpty

/-- The library with one more design learned from. -/
def incorporate [Scalar α] (l : ProfileLibrary α) (d : Design α) : ProfileLibrary α :=
  let profile := (l.get? d.className).getD (.blank d.className)
  ⟨l.profiles.set d.className (profile.incorporate d)⟩

variable [Codec α]

/-- The disk with a library saved to a file. -/
def save (l : ProfileLibrary α) (disk : Disk) (p : Path) : Disk × Except LibraryError Unit :=
  let (disk, r) := disk.write p (Codec.write l)
  (disk, r.mapError .disk)

/-- The library saved in a file. -/
def load (disk : Disk) (p : Path) : Except LibraryError (ProfileLibrary α) := do
  let text ← (disk.read p).mapError .disk
  match Codec.read (ProfileLibrary α) text with
  | some l => return l
  | none => throw .unreadable

end ProfileLibrary

end Shipwright
