import Shipwright.Proofs.Disk.Path
import Shipwright.Proofs.Ship.DesignFile
import Shipwright.Proofs.Ship.Reopening

/-!
# Where designs are filed

A design is saved in a folder under its number. Numbers are any texts that are not empty, and where
one holds a slash the path is not that of an entry of the folder: it leads further down, out of the
folder again, or, where the number begins with a slash, from the root whatever the folder. A session
on the design writes to that path and to no other, whatever has been done to the ship.
-/

namespace Shipwright

open Shipwright.Path

namespace Design

variable {α : Type}

/-- The name of a design's file is its number and the ending. -/
theorem filePath_eq (d : Design α) (folder : Path) :
    d.filePath folder = folder.join ⟨d.id ++ ".ship.ron"⟩ := by
  rw [filePath, String.append_assoc]
  rfl

/-- The name of a design's file leads from the root just if the number begins with a slash. -/
theorem isAbsolute_fileName (id : String) :
    (⟨id ++ ".ship.ron"⟩ : Path).isAbsolute = decide (id.toList.head? = some '/') := by
  cases hid : id.toList <;> simp [isAbsolute, hid]

/-- The name of a design's file is longer than the pieces that have a meaning of their own. -/
theorem fileName_ne {id piece : String} (h : piece.length < 9) : id ++ ".ship.ron" ≠ piece := by
  rintro rfl
  rw [String.length_append] at h
  exact absurd h (Nat.not_lt.mpr (Nat.le_add_left 9 _))

/-- The file of a design is an entry of the folder just if its number holds no slash. -/
theorem isEntry_filePath_iff (d : Design α) (folder : Path) :
    IsEntry folder (d.filePath folder) (d.id ++ ".ship.ron") ↔ '/' ∉ d.id.toList := by
  have hstill : isStill (d.id ++ ".ship.ron") = false := by
    have hblank : d.id ++ ".ship.ron" ≠ "" := fileName_ne (by decide)
    have hpoint : d.id ++ ".ship.ron" ≠ "." := fileName_ne (by decide)
    simp only [isStill, hblank, hpoint, decide_false, Bool.or_false]
  rw [filePath_eq, isEntry_join_iff hstill (fileName_ne (by decide))]
  simp

/-- A design whose number begins with a slash has the same file in every folder. -/
theorem filePath_of_slash {d : Design α} (folder : Path) (h : d.id.toList.head? = some '/') :
    d.filePath folder = ⟨d.id ++ ".ship.ron"⟩ := by
  rw [filePath_eq, join_of_isAbsolute]
  simp [isAbsolute_fileName, h]

/-- The path of any other design passes through the folder, and then through what its number
names. -/
theorem names_filePath {d : Design α} (folder : Path) (h : d.id.toList.head? ≠ some '/') :
    (d.filePath folder).names = folder.names ++ (⟨d.id ++ ".ship.ron"⟩ : Path).names := by
  rw [filePath_eq, names_join]
  simp [isAbsolute_fileName, h]

end Design

namespace Session

/-- A session on a design is saved in a folder just if the ship has a control point left and the
path of the design's file leads to a place. The text is written there and nowhere else. -/
theorem saveTo_applyAll_eq_ok_iff {d : Design Single} {settings : Settings Single}
    {s : Session Single} (h : ofDesign d settings = .ok s) (ops : List (Op Single))
    {disk after : Disk} {folder p : Path} {t : Session Single} :
    (s.applyAll ops).saveTo disk folder = (t, after, .ok p) ↔
      (s.applyAll ops).assembly.elements.controlPoints.items ≠ [] ∧
        t = (s.applyAll ops).markClean ∧ p = d.filePath folder ∧
        ∃ place, disk.locate p = .ok place ∧ after = { disk with
          files := disk.files.set place (s.applyAll ops).toDesign.toText } := by
  have hid : (s.applyAll ops).toDesign.id = d.id := by
    obtain ⟨-, rfl⟩ := ofDesign_eq_ok_iff.mp h
    exact (identity_applyAll _ ops).1
  have hpath : (s.applyAll ops).toDesign.filePath folder = d.filePath folder := by
    rw [Design.filePath_eq, Design.filePath_eq, hid]
  have hnamed : (s.applyAll ops).toDesign.id ≠ "" := by
    rw [hid]
    exact (Design.isValid_iff.mp (ofDesign_eq_ok_iff.mp h).1).2
  have hvalid : (s.applyAll ops).toDesign.isValid = true ↔
      (s.applyAll ops).assembly.elements.controlPoints.items ≠ [] := by
    rw [Design.isValid_iff, and_iff_left hnamed]
    rfl
  rw [saveTo_eq_ok_iff, Design.save_eq_ok_iff, hvalid, hpath, Disk.write_eq_ok_iff]
  tauto

/-- A valid design has a file in every folder, which is an entry of the folder under the number of
the design just if this holds no slash. One that begins with a slash is filed at a place of its own
whatever the folder, and any other passes through the folder and then goes where its slashes lead.
A session on the design is saved to that path, whatever its methods have done, as long as the ship
has a control point and the path leads to a place; no other file is touched. For a number without
slashes the place is right below that of the folder. -/
theorem filed_under_number {d : Design Single} (hvalid : d.isValid = true) (folder : Path) :
    (IsEntry folder (d.filePath folder) (d.id ++ ".ship.ron") ↔ '/' ∉ d.id.toList) ∧
    (d.id.toList.head? = some '/' → d.filePath folder = ⟨d.id ++ ".ship.ron"⟩) ∧
    (d.id.toList.head? ≠ some '/' →
      (d.filePath folder).names = folder.names ++ (⟨d.id ++ ".ship.ron"⟩ : Path).names) ∧
    ∀ settings, ∃ s, ofDesign d settings = .ok s ∧ ∀ (ops : List (Op Single)) (disk : Disk),
      (∀ after t p, (s.applyAll ops).saveTo disk folder = (t, after, .ok p) ↔
        (s.applyAll ops).assembly.elements.controlPoints.items ≠ [] ∧
          t = (s.applyAll ops).markClean ∧ p = d.filePath folder ∧
          ∃ place, disk.locate p = .ok place ∧ after = { disk with
            files := disk.files.set place (s.applyAll ops).toDesign.toText }) ∧
      ('/' ∉ d.id.toList → ∀ place, disk.locate (d.filePath folder) = .ok place →
        ∃ base, disk.walk [] folder.pieces = .ok base ∧
          place = base ++ [d.id ++ ".ship.ron"]) := by
  refine ⟨d.isEntry_filePath_iff folder, Design.filePath_of_slash folder,
    Design.names_filePath folder, fun settings => ?_⟩
  obtain ⟨s, hs⟩ : ∃ s, ofDesign d settings = .ok s :=
    ⟨_, ofDesign_eq_ok_iff.mpr ⟨hvalid, rfl⟩⟩
  refine ⟨s, hs, fun ops disk =>
    ⟨fun after t p => saveTo_applyAll_eq_ok_iff hs ops, fun hslash place hplace => ?_⟩⟩
  rw [Design.filePath_eq] at hplace
  exact Disk.exists_walk_of_locate_join (by simpa using hslash) hplace

/-- A disk with a folder and some files. -/
def oneFolder (files : List (Place × String)) : Disk := ⟨[["lib"]], .ofList files⟩

/-- A design whose number begins with a slash. -/
def slashed : Design Single :=
  { Design.empty with id := "/x", controlPoints := [⟨⟨0⟩, .zero, 0.0, 0.0⟩] }

/-- The patchwork ship is filed in the folder under its number, and a session that has renamed it
is saved right below the folder. The file of the other design is the same in every folder. -/
theorem filed_under_number_patchwork :
    Design.patchwork.isValid = true ∧ slashed.isValid = true ∧
      IsEntry ⟨"lib/"⟩ (Design.patchwork.filePath ⟨"lib/"⟩) "p-1.ship.ron" ∧
      (Design.patchwork.filePath ⟨"lib/"⟩).names = ["lib", "p-1.ship.ron"] ∧
      (∃ s, ofDesign .patchwork .standard = .ok s ∧
        let u := s.applyAll [.rename "Kept"]
        u.saveTo (oneFolder []) ⟨"lib/"⟩ =
          (u.markClean, oneFolder [(["lib", "p-1.ship.ron"], u.toDesign.toText)],
            .ok ⟨"lib/p-1.ship.ron"⟩) ∧
        ∃ base, (oneFolder []).walk [] ["lib", ""] = .ok base ∧
          ["lib", "p-1.ship.ron"] = base ++ ["p-1.ship.ron"]) ∧
      slashed.filePath ⟨"lib"⟩ = ⟨"/x.ship.ron"⟩ := by
  have hvalid : Design.patchwork.isValid = true := by decide
  have hvalid' : slashed.isValid = true := by decide
  obtain ⟨hentry, -, hnames, hsessions⟩ := filed_under_number hvalid ⟨"lib/"⟩
  obtain ⟨s, hs, hruns⟩ := hsessions .standard
  obtain ⟨hsaved, hbelow⟩ := hruns [.rename "Kept"] (oneFolder [])
  refine ⟨hvalid, hvalid', hentry.mpr (by decide), hnames (by decide), ⟨s, hs, ?_,
    hbelow (by decide) _ rfl⟩, (filed_under_number hvalid' ⟨"lib"⟩).2.1 rfl⟩
  obtain ⟨-, rfl⟩ := ofDesign_eq_ok_iff.mp hs
  exact (hsaved _ _ _).mpr ⟨nofun, rfl, rfl, _, rfl, rfl⟩

/-- That design is valid, but its file in a folder is no entry of the folder, and a session on it is
saved at the root. -/
theorem slashed_filed_elsewhere :
    slashed.isValid = true ∧ slashed.filePath ⟨"lib"⟩ = ⟨"/x.ship.ron"⟩ ∧
      ¬ IsEntry ⟨"lib"⟩ (slashed.filePath ⟨"lib"⟩) (slashed.id ++ ".ship.ron") ∧
      ∃ s, ofDesign slashed .standard = .ok s ∧ s.saveTo (oneFolder []) ⟨"lib"⟩ =
        (s, oneFolder [(["x.ship.ron"], s.toDesign.toText)], .ok ⟨"/x.ship.ron"⟩) := by
  refine ⟨by decide, rfl, fun hentry => ?_, ⟨_, rfl, rfl⟩⟩
  exact (slashed.isEntry_filePath_iff ⟨"lib"⟩).mp hentry (by decide)

end Session

end Shipwright
