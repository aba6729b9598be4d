import Shipwright.Ship.Library
import Shipwright.Proofs.Ron.Codec

/-!
# Libraries kept in files

A library is read back from its file as it was saved: every class under its name, whatever
characters that has, with its averages, and the classes in the order in which they were learned. So
no two libraries have the same file. The one condition is that every average is a number.
-/

namespace Shipwright

open Ron Codec

/-- All scalars of a profile. -/
def LearnedProfile.scalars {α : Type} (p : LearnedProfile α) : List α :=
  [p.controlPoints, p.length, p.width, p.hardpoints, p.lights, p.rooms]

/-- All scalars of a library. -/
def ProfileLibrary.scalars {α : Type} (l : ProfileLibrary α) : List α :=
  l.toList.flatMap (·.scalars)

section Records

variable {α : Type} [Codec α] {n : Nat}

/-- A profile keeps its class, its averages and the number of designs. -/
theorem kept_learnedProfile {p : LearnedProfile α} (h : ∀ a ∈ p.scalars, Plain a) :
    Kept (n + 1) p := by
  have hclass := plain_string p.className n
  have hpoints := h p.controlPoints (by simp [LearnedProfile.scalars]) n
  have hlength := h p.length (by simp [LearnedProfile.scalars]) n
  have hwidth := h p.width (by simp [LearnedProfile.scalars]) n
  have hmounts := h p.hardpoints (by simp [LearnedProfile.scalars]) n
  have hlights := h p.lights (by simp [LearnedProfile.scalars]) n
  have hrooms := h p.rooms (by simp [LearnedProfile.scalars]) n
  have hsamples := plain_uint32 p.samples n
  refine kept_record ["ship_class", "avg_control_point_count", "avg_hull_length", "avg_hull_width",
    "avg_turret_count", "avg_light_count", "avg_interior_count", "sample_count"] rfl
    (fun _ => rfl) rfl (by decide) (by simp) (by decide) ?_ ?_
  · simp [hclass.written, hpoints.written, hlength.written, hwidth.written, hmounts.written,
      hlights.written, hrooms.written, hsamples.written]
  · simp [required, hclass.decoded, hpoints.decoded, hlength.decoded, hwidth.decoded,
      hmounts.decoded, hlights.decoded, hrooms.decoded, hsamples.decoded]

/-- A library keeps its profiles. -/
theorem kept_profileLibrary {l : ProfileLibrary α} (h : ∀ a ∈ l.scalars, Plain a) :
    Kept (n + 3) l := by
  have hprofiles : Kept (n + 2) l.profiles := kept_map fun p hp =>
    kept_learnedProfile fun a ha => h a (List.mem_flatMap.mpr ⟨p, hp, ha⟩)
  refine kept_record ["profiles"] rfl (fun _ => rfl) rfl (by decide) (by simp) (by decide) ?_ ?_
  · simp [hprofiles.written]
  · simp [required, hprofiles.decoded]

end Records

namespace ProfileLibrary

variable {l : ProfileLibrary Single}

/-- A library without non-numbers is read back from its text. -/
theorem read_write (h : ∀ x ∈ l.scalars, x.isNaN = false) :
    Codec.read (ProfileLibrary Single) (Codec.write l) = some l :=
  Kept.read_write (kept_profileLibrary (n := 61) fun x hx => plain_single (h x hx))

/-- A library is saved just if its text can be written. -/
theorem save_eq_ok_iff {disk after : Disk} {p : Path} :
    l.save disk p = (after, .ok ()) ↔ disk.write p (Codec.write l) = (after, .ok ()) :=
  mk_mapError_eq_ok_iff

/-- A library is loaded just if the text of the file holds it. -/
theorem load_eq_ok_iff {disk : Disk} {p : Path} :
    load disk p = .ok l ↔
      ∃ text, disk.read p = .ok text ∧ Codec.read (ProfileLibrary Single) text = some l := by
  rw [load, Disk.bind_read_eq_ok_iff]
  refine exists_congr fun text => and_congr_right' ?_
  cases Codec.read (ProfileLibrary Single) text with
  | none => simp [throw, throwThe, MonadExceptOf.throw]
  | some r => simp [pure, Except.pure]

/-- A library whose averages are numbers is saved wherever its text can be written, and is loaded
from there as it was: the same profile under every name of a class, and the profiles in the same
order. Another library has another text. -/
theorem saved_and_loaded_alike (h : ∀ x ∈ l.scalars, x.isNaN = false) :
    (∀ (disk after : Disk) (p : Path), l.save disk p = (after, .ok ()) ↔
      disk.write p (Codec.write l) = (after, .ok ())) ∧
    (∀ (disk after : Disk) (p : Path), l.save disk p = (after, .ok ()) → load after p = .ok l) ∧
    ∀ r : ProfileLibrary Single, (∀ x ∈ r.scalars, x.isNaN = false) →
      Codec.write r = Codec.write l → r = l := by
  have hread := read_write h
  refine ⟨fun disk after p => save_eq_ok_iff, fun disk after p hsave => ?_, fun r hr hwrite => ?_⟩
  · exact load_eq_ok_iff.mpr ⟨_, Disk.read_write (save_eq_ok_iff.mp hsave), hread⟩
  · rw [← hwrite, read_write hr] at hread
    exact Option.some.inj hread

/-- A library of three classes: one without a name, one whose name must be escaped and one whose
name does not show, with an infinity, a negative zero and the smallest float among its averages. -/
def oddNames : ProfileLibrary Single :=
  ⟨[("", ⟨"", ⟨0x7F800000⟩, ⟨0x80000000⟩, ⟨1⟩, 0.0, 0.0, 0.0, 1⟩),
      ("\"\\\n\x00'", ⟨"Frigate", 5.0, 8.0, ⟨0x3DCCCCCD⟩, 3.0, 4.0, 2.0, 4294967295⟩),
      ("\u200b\u3164", .blank "\u200b")], by decide⟩

/-- The library of odd names is saved to a file and loaded from there. -/
theorem saved_and_loaded_alike_oddNames :
    (∀ x ∈ oddNames.scalars, x.isNaN = false) ∧
    ∃ after, oddNames.save .empty ⟨"library.ron"⟩ = (after, .ok ()) ∧
      load after ⟨"library.ron"⟩ = .ok oddNames ∧ oddNames.size = 3 := by
  have hnumbers : ∀ x ∈ oddNames.scalars, x.isNaN = false := by decide
  obtain ⟨hsaved, hloaded, -⟩ := saved_and_loaded_alike hnumbers
  have hsave := (hsaved .empty ⟨[], Disk.empty.files.set ["library.ron"] (Codec.write oddNames)⟩
    ⟨"library.ron"⟩).mpr rfl
  exact ⟨hnumbers, _, hsave, hloaded _ _ _ hsave, rfl⟩

end ProfileLibrary

end Shipwright
