import Shipwright.OrderedMap
import Shipwright.Disk.Path

/-!
# A disk

Ship files live on a disk: a set of folders and a map from places to the texts
of files. Writing replaces a whole file and creates it where it is missing, but
never creates a folder; whatever fails leaves the disk as it is.
-/

namespace Shipwright

/-- A place on the disk, by the names that lead to it from the root. -/
abbrev Place := List String

/-- The folders and files of a disk; the root is always a folder. -/
structure Disk where
  /-- All folders but the root. -/
  folders : List Place
  /-- The texts of the files. -/
  files : OrderedMap Place String

/-- Why a file cannot be read or written. -/
inductive DiskError where
  /-- The file, or a folder on the way to it, does not exist. -/
  | notFound
  /-- The path leads to a folder. -/
  | isFolder
  /-- The path leads through a file. -/
  | notFolder
  /-- A name holds a zero character. -/
  | badName
  /-- A name is too long. -/
  | longName
  /-- The path is too long. -/
  | longPath
  deriving DecidableEq, Repr

/-- Taking errors for others changes no success. -/
theorem mapError_eq_ok_iff {ε ε' τ : Type} {f : ε → ε'} {r : Except ε τ} {x : τ} :
    r.mapError f = .ok x ↔ r = .ok x := by
  cases r with
  | error e => exact ⟨nofun, nofun⟩
  | ok y =>
    change (.ok y : Except ε' τ) = .ok x ↔ _
    rw [Except.ok.injEq, Except.ok.injEq]

/-- Taking errors for others changes no success, nor what has come about beside it. -/
theorem mk_mapError_eq_ok_iff {σ ε ε' τ : Type} {f : ε → ε'} {r : σ × Except ε τ} {s : σ} {x : τ} :
    (r.1, r.2.mapError f) = (s, .ok x) ↔ r = (s, .ok x) := by
  rw [Prod.mk.injEq, mapError_eq_ok_iff, Prod.ext_iff]

namespace Disk

/-- The disk without files and folders. -/
def empty : Disk := ⟨[], .empty⟩

instance : Inhabited Disk := ⟨empty⟩

/-- The number of bytes a name may have. -/
def nameLimit : Nat := 255

/-- The number of bytes a path may have. -/
def pathLimit : Nat := 4095

/-- Whether a place is a folder. -/
def isFolder (d : Disk) (place : Place) : Bool := place = [] || d.folders.contains place

/-- The folder that pieces of a path lead to from another one. -/
def walk (d : Disk) : Place → List String → Except DiskError Place
  | here, [] => .ok here
  | here, piece :: pieces =>
    if Path.isStill piece then d.walk here pieces
    else if piece = ".." then d.walk here.dropLast pieces
    else if nameLimit < piece.utf8ByteSize then .error .longName
    else if d.isFolder (here ++ [piece]) then d.walk (here ++ [piece]) pieces
    else if (d.files.get? (here ++ [piece])).isSome then .error .notFolder
    else .error .notFound

/-- The place of a file in a folder. -/
def placeIn (d : Disk) (folder : Place) (piece : String) : Except DiskError Place :=
  if Path.isStill piece || piece = ".." || d.isFolder (folder ++ [piece]) then .error .isFolder
  else if nameLimit < piece.utf8ByteSize then .error .longName
  else .ok (folder ++ [piece])

/-- The place a path leads to, where a file is or could be. -/
def locate (d : Disk) (p : Path) : Except DiskError Place := do
  if p.text.toList.contains '\x00' then throw .badName
  else if p.text.isEmpty then throw .notFound
  else if pathLimit < p.text.utf8ByteSize then throw .longPath
  else
    let folder ← d.walk [] p.pieces.dropLast
    d.placeIn folder (p.pieces.getLastD "")

/-- The text of the file at a path. -/
def read (d : Disk) (p : Path) : Except DiskError String := do
  match d.files.get? (← d.locate p) with
  | some text => return text
  | none => throw .notFound

/-- The disk with a text written to the file at a path. -/
def write (d : Disk) (p : Path) (text : String) : Disk × Except DiskError Unit :=
  match d.locate p with
  | .ok place => ({ d with files := d.files.set place text }, .ok ())
  | .error e => (d, .error e)

/-- A text is written just if the path leads to a place, where it replaces what was there. -/
theorem write_eq_ok_iff {d e : Disk} {p : Path} {text : String} :
    d.write p text = (e, .ok ()) ↔
      ∃ place, d.locate p = .ok place ∧ e = { d with files := d.files.set place text } := by
  unfold write
  cases d.locate p with
  | error e => simp
  | ok place => simp [eq_comm]

/-- Writing that fails leaves the disk as it is. -/
theorem fst_write_of_error {d : Disk} {p : Path} {text : String} {err : DiskError}
    (h : (d.write p text).2 = .error err) : (d.write p text).1 = d := by
  unfold write at h ⊢
  cases hplace : d.locate p with
  | error e => rfl
  | ok place =>
    rw [hplace] at h
    cases h

@[simp] theorem folders_write {d e : Disk} {p : Path} {text : String}
    (h : d.write p text = (e, .ok ())) : e.folders = d.folders := by
  obtain ⟨place, -, rfl⟩ := write_eq_ok_iff.mp h
  rfl

/-- Where a path leads depends on the folders alone, once it leads anywhere. -/
theorem walk_eq_ok_of_folders {d e : Disk} (hf : e.folders = d.folders) {here there : Place}
    {pieces : List String} (h : d.walk here pieces = .ok there) :
    e.walk here pieces = .ok there := by
  have hfold : ∀ place, e.isFolder place = d.isFolder place := by simp [isFolder, hf]
  induction pieces generalizing here with
  | nil => simpa [walk] using h
  | cons piece pieces ih =>
    simp only [walk, hfold] at h ⊢
    split at h
    · rw [if_pos ‹_›]; exact ih h
    · rw [if_neg ‹_›]
      split at h
      · rw [if_pos ‹_›]; exact ih h
      · rw [if_neg ‹_›]
        split at h
        · cases h
        · rw [if_neg ‹_›]
          split at h
          · rw [if_pos ‹_›]; exact ih h
          · split at h <;> cases h

/-- A path leads to a place just if it can be written down, its folder is there and the place in it
can be a file. -/
theorem locate_eq_ok_iff {d : Disk} {p : Path} {place : Place} :
    d.locate p = .ok place ↔ '\x00' ∉ p.text.toList ∧ p.text ≠ "" ∧
      p.text.utf8ByteSize ≤ pathLimit ∧ ∃ base, d.walk [] p.pieces.dropLast = .ok base ∧
        d.placeIn base (p.pieces.getLastD "") = .ok place := by
  unfold locate
  split
  · simp_all [throw, throwThe, MonadExceptOf.throw]
  · split
    · simp_all [throw, throwThe, MonadExceptOf.throw]
    · split
      · rename_i hlong
        simp [throw, throwThe, MonadExceptOf.throw, Nat.not_le.mpr hlong]
      · cases d.walk [] p.pieces.dropLast with
        | error e => simp [bind, Except.bind]
        | ok base => simp_all [bind, Except.bind]

/-- A path leads to the same place on any disk with the same folders. -/
theorem locate_eq_ok_of_folders {d e : Disk} (hf : e.folders = d.folders) {p : Path}
    {place : Place} (h : d.locate p = .ok place) : e.locate p = .ok place := by
  obtain ⟨hchars, hempty, hlimit, base, hwalk, hplace⟩ := locate_eq_ok_iff.mp h
  refine locate_eq_ok_iff.mpr
    ⟨hchars, hempty, hlimit, base, walk_eq_ok_of_folders hf hwalk, ?_⟩
  simpa [placeIn, isFolder, hf] using hplace

/-- Something comes of the file at a path just if it comes of the text that is read there. -/
theorem bind_read_eq_ok_iff {ε τ : Type} {f : DiskError → ε} {g : String → Except ε τ} {d : Disk}
    {p : Path} {x : τ} :
    ((d.read p).mapError f >>= g) = .ok x ↔ ∃ text, d.read p = .ok text ∧ g text = .ok x := by
  cases d.read p with
  | error e =>
    constructor
    · intro h
      cases h
    · rintro ⟨text, htext, -⟩
      cases htext
  | ok text =>
    constructor
    · intro h
      exact ⟨text, rfl, h⟩
    · rintro ⟨_, ⟨⟩, h⟩
      exact h

/-- What is written to a path is read back from it. -/
theorem read_write {d e : Disk} {p : Path} {text : String} (h : d.write p text = (e, .ok ())) :
    e.read p = .ok text := by
  obtain ⟨place, hplace, rfl⟩ := write_eq_ok_iff.mp h
  have hlocate := locate_eq_ok_of_folders (folders_write h) hplace
  simp [read, hlocate, bind, Except.bind, OrderedMap.get?_set, pure, Except.pure]

end Disk

end Shipwright
