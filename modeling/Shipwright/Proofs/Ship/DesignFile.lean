import Shipwright.Ship.DesignFile
import Shipwright.Proofs.Ron.Codec

/-!
# Designs kept in files

A design is read back from its file as it was saved, whatever its texts hold and however often a
number occurs in it, as long as each of its floats is a number. Only designs that can be told
from others and have a hull are saved, and only such designs come out of a file.
-/

namespace Shipwright

open Ron Codec

section Scalars

variable {α : Type}

/-- All scalars of a control point. -/
def ControlPoint.scalars (e : ControlPoint α) : List α := e.position.toList ++ [e.radius, e.weight]

/-- All scalars of a hardpoint. -/
def Hardpoint.scalars (e : Hardpoint α) : List α := e.position.toList ++ e.direction.toList

/-- All scalars of a light. -/
def Light.scalars (e : Light α) : List α :=
  e.position.toList ++ e.color.toList ++ [e.intensity, e.range]

/-- All scalars of a room. -/
def Room.scalars (e : Room α) : List α := e.low.toList ++ e.high.toList

/-- All scalars of a feature. -/
def Feature.scalars (e : Feature α) : List α :=
  e.position.toList ++ e.scale.toList ++ [e.rotation]

/-- All scalars of a mesh. -/
def Mesh.scalars (m : Mesh α) : List α := m.vertices ++ m.normals

/-- All scalars of a design. -/
def Design.scalars (d : Design α) : List α :=
  d.controlPoints.flatMap (·.scalars) ++ d.hardpoints.flatMap (·.scalars) ++
    d.lights.flatMap (·.scalars) ++ d.rooms.flatMap (·.scalars) ++
    d.features.flatMap (·.scalars) ++ d.mesh.scalars

/-- What holds of all scalars of a design holds of those of its elements and of its mesh. -/
theorem Design.forall_mem_scalars {d : Design α} {P : α → Prop} :
    (∀ a ∈ d.scalars, P a) ↔ (∀ e ∈ d.controlPoints, ∀ a ∈ e.scalars, P a) ∧
      (∀ e ∈ d.hardpoints, ∀ a ∈ e.scalars, P a) ∧ (∀ e ∈ d.lights, ∀ a ∈ e.scalars, P a) ∧
      (∀ e ∈ d.rooms, ∀ a ∈ e.scalars, P a) ∧ (∀ e ∈ d.features, ∀ a ∈ e.scalars, P a) ∧
      ∀ a ∈ d.mesh.scalars, P a := by
  simp only [Design.scalars, List.forall_mem_append, List.forall_mem_flatMap, and_assoc]

end Scalars

section Elements

variable {α : Type} [Codec α] {n : Nat}

theorem kept_elementId (id : ElementId) : Kept (n + 1) id :=
  kept_wrapped (by decide) rfl (plain_uint32 id.val n)

theorem plain_mountSize (size : MountSize) : Plain size := by
  cases size <;> exact plain_tagged (by decide) rfl

theorem plain_weaponType (weapon : WeaponType) : Plain weapon := by
  cases weapon <;> exact plain_tagged (by decide) rfl

theorem plain_lightKind (kind : LightKind) : Plain kind := by
  cases kind <;> exact plain_tagged (by decide) rfl

theorem plain_featureKind (kind : FeatureKind) : Plain kind := by
  cases kind <;> exact plain_tagged (by decide) rfl

theorem kept_controlPoint {e : ControlPoint α} (h : ∀ a ∈ e.scalars, Plain a) :
    Kept (n + 3) e := by
  have hid := kept_elementId (n := n + 1) e.id
  have hposition : Kept (n + 2) e.position :=
    kept_vec3 fun a ha => h a (by simp [ControlPoint.scalars, ha])
  have hradius := h e.radius (by simp [ControlPoint.scalars]) (n + 2)
  have hweight := h e.weight (by simp [ControlPoint.scalars]) (n + 2)
  refine kept_record ["id", "position", "radius", "weight"] rfl
    (fun _ => rfl) rfl (by decide) (by simp) (by decide) ?_ ?_
  · simp [hid.written, hposition.written, hradius.written, hweight.written]
  · simp [required, hid.decoded, hposition.decoded, hradius.decoded, hweight.decoded]

theorem kept_hardpoint {e : Hardpoint α} (h : ∀ a ∈ e.scalars, Plain a) : Kept (n + 3) e := by
  have hid := kept_elementId (n := n + 1) e.id
  have hposition : Kept (n + 2) e.position :=
    kept_vec3 fun a ha => h a (by simp [Hardpoint.scalars, ha])
  have hdirection : Kept (n + 2) e.direction :=
    kept_vec3 fun a ha => h a (by simp [Hardpoint.scalars, ha])
  have hsize := plain_mountSize e.size (n + 2)
  have hweapon := plain_weaponType e.weapon (n + 2)
  refine kept_record ["id", "position", "direction", "size", "weapon_type"] rfl
    (fun _ => rfl) rfl (by decide) (by simp) (by decide) ?_ ?_
  · simp [hid.written, hposition.written, hdirection.written, hsize.written, hweapon.written]
  · simp [required, hid.decoded, hposition.decoded, hdirection.decoded, hsize.decoded,
      hweapon.decoded]

theorem kept_light {e : Light α} (h : ∀ a ∈ e.scalars, Plain a) : Kept (n + 3) e := by
  have hid := kept_elementId (n := n + 1) e.id
  have hposition : Kept (n + 2) e.position :=
    kept_vec3 fun a ha => h a (by simp [Light.scalars, ha])
  have hcolor : Kept (n + 2) e.color := kept_vec3 fun a ha => h a (by simp [Light.scalars, ha])
  have hintensity := h e.intensity (by simp [Light.scalars]) (n + 2)
  have hrange := h e.range (by simp [Light.scalars]) (n + 2)
  have hkind := plain_lightKind e.kind (n + 2)
  have hinterior := plain_bool e.interior (n + 2)
  refine kept_record ["id", "position", "color", "intensity", "range", "kind", "interior"] rfl
    (fun _ => rfl) rfl (by decide) (by simp) (by decide) ?_ ?_
  · simp [hid.written, hposition.written, hcolor.written, hintensity.written, hrange.written,
      hkind.written, hinterior.written]
  · simp [required, hid.decoded, hposition.decoded, hcolor.decoded, hintensity.decoded,
      hrange.decoded, hkind.decoded, hinterior.decoded]

theorem kept_room {e : Room α} (h : ∀ a ∈ e.scalars, Plain a) : Kept (n + 3) e := by
  have hid := kept_elementId (n := n + 1) e.id
  have hname := plain_string e.name (n + 2)
  have hlow : Kept (n + 2) e.low := kept_vec3 fun a ha => h a (by simp [Room.scalars, ha])
  have hhigh : Kept (n + 2) e.high := kept_vec3 fun a ha => h a (by simp [Room.scalars, ha])
  have hcockpit := plain_bool e.cockpit (n + 2)
  refine kept_record ["id", "name", "bounds_min", "bounds_max", "has_cockpit"] rfl
    (fun _ => rfl) rfl (by decide) (by simp) (by decide) ?_ ?_
  · simp [hid.written, hname.written, hlow.written, hhigh.written, hcockpit.written]
  · simp [required, hid.decoded, hname.decoded, hlow.decoded, hhigh.decoded, hcockpit.decoded]

theorem kept_feature {e : Feature α} (h : ∀ a ∈ e.scalars, Plain a) : Kept (n + 3) e := by
  have hid := kept_elementId (n := n + 1) e.id
  have hkind := plain_featureKind e.kind (n + 2)
  have hposition : Kept (n + 2) e.position :=
    kept_vec3 fun a ha => h a (by simp [Feature.scalars, ha])
  have hscale : Kept (n + 2) e.scale := kept_vec3 fun a ha => h a (by simp [Feature.scalars, ha])
  have hrotation := h e.rotation (by simp [Feature.scalars]) (n + 2)
  refine kept_record ["id", "kind", "position", "scale", "rotation"] rfl
    (fun _ => rfl) rfl (by decide) (by simp) (by decide) ?_ ?_
  · simp [hid.written, hkind.written, hposition.written, hscale.written, hrotation.written]
  · simp [required, hid.decoded, hkind.decoded, hposition.decoded, hscale.decoded,
      hrotation.decoded]

theorem kept_mesh {m : Mesh α} (h : ∀ a ∈ m.scalars, Plain a) : Kept (n + 2) m := by
  have hvertices : Kept (n + 1) m.vertices :=
    kept_list fun a ha => h a (by simp [Mesh.scalars, ha]) n
  have hnormals : Kept (n + 1) m.normals :=
    kept_list fun a ha => h a (by simp [Mesh.scalars, ha]) n
  have hindices : Kept (n + 1) m.indices := kept_list fun i _ => plain_uint32 i n
  refine kept_record ["vertices", "normals", "indices"] rfl
    (fun _ => rfl) rfl (by decide) (by simp) (by decide) ?_ ?_
  · simp [hvertices.written, hnormals.written, hindices.written]
  · simp [required, hvertices.decoded, hnormals.decoded, hindices.decoded]

/-- A design keeps its texts, its seed, its elements and its mesh. -/
theorem kept_design {d : Design α} (h : ∀ a ∈ d.scalars, Plain a) : Kept (n + 5) d := by
  obtain ⟨hp, hm, hl, hr, hf, hmesh⟩ := Design.forall_mem_scalars.mp h
  have hid := plain_string d.id (n + 4)
  have hname := plain_string d.name (n + 4)
  have hclass := plain_string d.className (n + 4)
  have hseed := plain_uint64 d.seed (n + 4)
  have hpoints : Kept (n + 4) d.controlPoints := kept_list fun e he => kept_controlPoint (hp e he)
  have hmounts : Kept (n + 4) d.hardpoints := kept_list fun e he => kept_hardpoint (hm e he)
  have hlights : Kept (n + 4) d.lights := kept_list fun e he => kept_light (hl e he)
  have hrooms : Kept (n + 4) d.rooms := kept_list fun e he => kept_room (hr e he)
  have hfeatures : Kept (n + 4) d.features := kept_list fun e he => kept_feature (hf e he)
  have hmesh : Kept (n + 4) d.mesh := kept_mesh hmesh
  refine kept_record ["ship_id", "ship_name", "ship_class", "seed", "control_points", "hardpoints",
    "lights", "interiors", "visual_features", "generated_mesh"] rfl
    (fun _ => rfl) rfl (by decide) (by simp) (by decide) ?_ ?_
  · simp [hid.written, hname.written, hclass.written, hseed.written, hpoints.written,
      hmounts.written, hlights.written, hrooms.written, hfeatures.written, hmesh.written]
  · simp [required, withDefault, hid.decoded, hname.decoded, hclass.decoded, hseed.decoded,
      hpoints.decoded, hmounts.decoded, hlights.decoded, hrooms.decoded, hfeatures.decoded,
      hmesh.decoded]

end Elements

namespace Design

variable {α : Type} [Codec α]

/-- A design without non-numbers is read back from its text. -/
theorem ofText_toText {d : Design Single} (h : ∀ x ∈ d.scalars, x.isNaN = false) :
    ofText d.toText = .ok d := by
  have hkept : Kept (Reader.maxDepth / 2) d :=
    kept_design (n := 59) fun x hx => plain_single (h x hx)
  rw [ofText, toText, hkept.read_write]

/-- An invalid design is refused before the disk is touched. -/
theorem save_of_not_isValid {d : Design α} (h : d.isValid = false) (disk : Disk) (p : Path) :
    d.save disk p = (disk, .error (.invalid d.id)) := by
  simp [save, validated, h]

/-- A valid design is saved as its text. -/
theorem save_of_isValid {d : Design α} (h : d.isValid = true) (disk : Disk) (p : Path) :
    d.save disk p = ((disk.write p d.toText).1, (disk.write p d.toText).2.mapError .disk) := by
  simp [save, validated, h]

/-- Saving fails for want of a number or a hull just if the design has none. -/
theorem save_eq_invalid_iff (d : Design Single) (disk : Disk) (p : Path) :
    d.save disk p = (disk, .error (.invalid d.id)) ↔ d.controlPoints = [] ∨ d.id = "" := by
  have hvalid : d.isValid = false ↔ d.controlPoints = [] ∨ d.id = "" := by
    rw [Bool.eq_false_iff, ne_eq, isValid_iff]
    tauto
  rw [← hvalid]
  refine ⟨fun hsave => ?_, fun h => save_of_not_isValid h disk p⟩
  by_contra hv
  rw [save_of_isValid (Bool.of_not_eq_false hv)] at hsave
  cases hwrite : (disk.write p d.toText).2 <;> simp [hwrite, Except.mapError] at hsave

/-- A design is saved just if it is valid and its text can be written. -/
theorem save_eq_ok_iff {d : Design Single} {disk after : Disk} {p : Path} :
    d.save disk p = (after, .ok ()) ↔
      d.isValid = true ∧ disk.write p d.toText = (after, .ok ()) := by
  cases hvalid : d.isValid with
  | false => simp [save_of_not_isValid hvalid]
  | true =>
    rw [save_of_isValid hvalid, mk_mapError_eq_ok_iff]
    exact (and_iff_right rfl).symm

/-- Saving that fails leaves the disk as it is. -/
theorem fst_save_of_error {d : Design α} {disk : Disk} {p : Path} {e : DesignError}
    (h : (d.save disk p).2 = .error e) : (d.save disk p).1 = disk := by
  cases hvalid : d.isValid with
  | false => rw [save_of_not_isValid hvalid]
  | true =>
    rw [save_of_isValid hvalid] at h ⊢
    cases hwrite : (disk.write p d.toText).2 with
    | error err => exact Disk.fst_write_of_error hwrite
    | ok u =>
      rw [hwrite] at h
      cases h

/-- A design passes if it is valid, and then as it is. -/
theorem validated_eq_ok_iff {d e : Design Single} :
    d.validated = .ok e ↔ d = e ∧ e.isValid = true := by
  unfold validated
  split
  · rename_i hvalid
    rw [Except.ok.injEq]
    exact ⟨fun h => ⟨h, h ▸ hvalid⟩, And.left⟩
  · rename_i hvalid
    constructor
    · rintro ⟨⟩
    · rintro ⟨rfl, hvalid'⟩
      exact absurd hvalid' hvalid

/-- A design is loaded just if the text of the file holds it and it is valid. -/
theorem load_eq_ok_iff {disk : Disk} {p : Path} {d : Design Single} :
    load disk p = .ok d ↔
      ∃ text, disk.read p = .ok text ∧ ofText text = .ok d ∧ d.isValid = true := by
  have hvalidated : ∀ text, (ofText text >>= validated) = .ok d ↔
      ofText text = .ok d ∧ d.isValid = true := by
    intro text
    cases (ofText text : Except DesignError (Design Single)) with
    | error e => simp [bind, Except.bind]
    | ok e =>
      rw [Except.ok.injEq]
      exact validated_eq_ok_iff
  rw [load, Disk.bind_read_eq_ok_iff]
  exact exists_congr fun text => and_congr_right' (hvalidated text)

/-- What is loaded from a file that a design was saved to is the design. -/
theorem load_of_save {d : Design Single} (h : ∀ x ∈ d.scalars, x.isNaN = false)
    {disk after : Disk} {p : Path} (hsave : d.save disk p = (after, .ok ())) :
    load after p = .ok d := by
  obtain ⟨hvalid, hwrite⟩ := save_eq_ok_iff.mp hsave
  exact load_eq_ok_iff.mpr ⟨_, Disk.read_write hwrite, ofText_toText h, hvalid⟩

/-- Only a valid design comes out of a file. -/
theorem isValid_of_load {disk : Disk} {p : Path} {d : Design Single}
    (h : load disk p = .ok d) : d.isValid = true := by
  obtain ⟨-, -, -, hvalid⟩ := load_eq_ok_iff.mp h
  exact hvalid

/-- A design whose floats are numbers is read back from its text. Whatever its floats, it is
refused and the disk left alone just if it has no control point or no number, and is otherwise
saved wherever its text can be written; what is loaded from there is the design again. Whatever
fails leaves the disk as it was. Whatever text a file holds, only a valid design is loaded from
it. -/
theorem saved_and_loaded :
    (∀ d : Design Single, (∀ x ∈ d.scalars, x.isNaN = false) →
      ofText d.toText = .ok d ∧
      ∀ (disk after : Disk) (p : Path), d.save disk p = (after, .ok ()) → load after p = .ok d) ∧
    (∀ (d : Design Single) (disk : Disk) (p : Path),
      (d.save disk p = (disk, .error (.invalid d.id)) ↔ d.controlPoints = [] ∨ d.id = "") ∧
      (∀ after, ¬ (d.controlPoints = [] ∨ d.id = "") → disk.write p d.toText = (after, .ok ()) →
        d.save disk p = (after, .ok ())) ∧
      ∀ e, (d.save disk p).2 = .error e → (d.save disk p).1 = disk) ∧
    ∀ (disk : Disk) (p : Path) (d : Design Single), load disk p = .ok d → d.isValid = true := by
  refine ⟨fun d h => ⟨ofText_toText h, fun disk after p hsave => load_of_save h hsave⟩,
    fun d disk p => ⟨save_eq_invalid_iff d disk p, fun after hvalid hwrite => ?_,
      fun e => fst_save_of_error⟩, fun disk p d h => isValid_of_load h⟩
  exact save_eq_ok_iff.mpr ⟨isValid_iff.mpr (not_or.mp hvalid), hwrite⟩

/-- A design with texts that must be escaped, a number that two elements share, an infinity, a
negative zero and the smallest float. -/
def patchwork : Design Single :=
  ⟨"p-1", "The \"Patch\\work\"\n", "caf\u00e9 \u200b", 0xFFFFFFFFFFFFFFFF,
    [⟨⟨7⟩, ⟨⟨0x7F800000⟩, ⟨0x80000000⟩, ⟨1⟩⟩, ⟨0x3DCCCCCD⟩, ⟨0x3F800000⟩⟩,
      ⟨⟨7⟩, ⟨⟨0xFF800000⟩, ⟨0⟩, ⟨0x4B800001⟩⟩, ⟨0x7F7FFFFF⟩, ⟨0xBF800000⟩⟩],
    [], [], [⟨⟨7⟩, "\x00'", ⟨⟨0⟩, ⟨0⟩, ⟨0⟩⟩, ⟨⟨0⟩, ⟨0⟩, ⟨0⟩⟩, true⟩], [],
    ⟨[⟨0⟩], [], [0, 4294967295]⟩⟩

/-- The patchwork ship is saved to a file of its own and loaded from there; without its number it
is refused. -/
theorem saved_and_loaded_patchwork :
    ofText patchwork.toText = .ok patchwork ∧
      (∃ after, patchwork.save .empty ⟨"p-1.ship.ron"⟩ = (after, .ok ()) ∧
        load after ⟨"p-1.ship.ron"⟩ = .ok patchwork ∧ patchwork.isValid = true) ∧
      { patchwork with id := "" }.save .empty ⟨"p-1.ship.ron"⟩ =
        (.empty, .error (.invalid "")) := by
  have hnumbers : ∀ x ∈ patchwork.scalars, x.isNaN = false := by decide
  have hsave := (saved_and_loaded.2.1 patchwork .empty ⟨"p-1.ship.ron"⟩).2.1
    ⟨[], Disk.empty.files.set ["p-1.ship.ron"] patchwork.toText⟩ (by decide) rfl
  have hload := (saved_and_loaded.1 patchwork hnumbers).2 _ _ _ hsave
  exact ⟨(saved_and_loaded.1 patchwork hnumbers).1,
    ⟨_, hsave, hload, saved_and_loaded.2.2 _ _ _ hload⟩,
    (saved_and_loaded.2.1 { patchwork with id := "" } .empty ⟨"p-1.ship.ron"⟩).1.mpr (.inr rfl)⟩

end Design

end Shipwright
