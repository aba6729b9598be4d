import Shipwright.Proofs.Ship.DesignFile
import Shipwright.Proofs.Ship.Generation
import Shipwright.Proofs.Ship.Refusal

/-!
# A clean session is the ship that was kept

A session is known to be clean where a design has just been opened, where it has just been marked
as clean and where it has just been saved. It is said once what a method can have done if the
session is clean after it: it cleaned the session, or the session was clean before and the ship was
left alone. So a session that is clean is the ship that it was at the last point of that kind, and
if it was saved there, the file that was written describes it still. The ship inside may not be
worked on behind the session's back: that leaves no mark.
-/

namespace Shipwright

namespace Session

section SameShip

variable {α : Type}

/-- The one session is on the same ship as the other, with the same elements. -/
structure SameShip (s t : Session α) : Prop where
  /-- The ship has the same number. -/
  id : t.id = s.id
  /-- It has the same name. -/
  name : t.name = s.name
  /-- It is of the same class. -/
  className : t.className = s.className
  /-- It is made from the same seed. -/
  seed : t.seed = s.seed
  /-- It has the same elements of all kinds. -/
  elements : t.assembly.elements = s.assembly.elements

/-- A session is on its own ship. -/
theorem SameShip.refl (s : Session α) : s.SameShip s := ⟨rfl, rfl, rfl, rfl, rfl⟩

/-- Two steps that leave the ship alone are one. -/
theorem SameShip.trans {s t u : Session α} (hst : s.SameShip t) (htu : t.SameShip u) :
    s.SameShip u :=
  ⟨htu.id.trans hst.id, htu.name.trans hst.name, htu.className.trans hst.className,
    htu.seed.trans hst.seed, htu.elements.trans hst.elements⟩

/-- A design says who the ship of a session is and what is placed on it. -/
structure Describes (d : Design α) (s : Session α) : Prop where
  /-- It has the number of the ship. -/
  id : d.id = s.id
  /-- It has the name of the ship. -/
  name : d.name = s.name
  /-- It has the class of the ship. -/
  className : d.className = s.className
  /-- It has the seed of the ship. -/
  seed : d.seed = s.seed
  /-- It has the control points in order. -/
  controlPoints : d.controlPoints = s.assembly.elements.controlPoints.items
  /-- It has the hardpoints in order. -/
  hardpoints : d.hardpoints = s.assembly.elements.hardpoints.items
  /-- It has the lights in order. -/
  lights : d.lights = s.assembly.elements.lights.items
  /-- It has the rooms in order. -/
  rooms : d.rooms = s.assembly.elements.rooms.items
  /-- It has the features in order. -/
  features : d.features = s.assembly.elements.features.items

/-- The design of a session describes every session on the same ship. -/
theorem SameShip.describes {s t : Session α} (h : s.SameShip t) : Describes s.toDesign t := by
  obtain ⟨hid, hname, hclass, hseed, helements⟩ := h
  constructor
  case id => exact hid.symm
  case name => exact hname.symm
  case className => exact hclass.symm
  case seed => exact hseed.symm
  all_goals rw [helements]; rfl

end SameShip

variable {α : Type}

/-- A method cleans a session that it marks as clean or saves. -/
inductive Op.Cleans [Ron.Codec α] (s : Session α) : Op α → Prop
  /-- The session is marked. -/
  | markClean : Cleans s .markClean
  /-- The session is saved and nothing fails. -/
  | saveTo {disk disk' : Disk} {folder path : Path} {t : Session α}
    (h : s.saveTo disk folder = (t, disk', .ok path)) : Cleans s (.saveTo disk folder)

/-- Saving that fails leaves the session and the disk as they are. -/
theorem saveTo_of_error [Ron.Codec α] {s : Session α} {disk : Disk} {folder : Path}
    {e : DesignError} (h : (s.saveTo disk folder).2.2 = .error e) :
    s.saveTo disk folder = (s, disk, .error e) := by
  have hdisk : ∀ {e}, (s.toDesign.save disk (s.toDesign.filePath folder)).2 = .error e →
      (s.toDesign.save disk (s.toDesign.filePath folder)).1 = disk := Design.fst_save_of_error
  simp only [saveTo] at h ⊢
  rcases hsave : s.toDesign.save disk (s.toDesign.filePath folder) with ⟨after, e' | u⟩
  · rw [hsave] at h hdisk
    obtain rfl := Except.error.inj h
    obtain rfl := hdisk rfl
    rfl
  · rw [hsave] at h
    cases h

variable [Trigonometric α]

/-- An edit that leaves a session clean was refused. -/
theorem change_of_clean {s : Session α} {id : ElementId} {now : UInt64} {c : Change α}
    (h : (s.change id now c).1.dirty = false) : (s.change id now c).1 = s := by
  obtain ⟨hrefused, hwhole⟩ := s.wholeOrNot_change id now c
  by_cases hid : s.Holds c.kind id
  · obtain ⟨p, p', kind, old, new, s', hs', -, hchanged⟩ := hwhole hid
    rw [hs', hchanged.dirty] at h
    cases h
  · rw [hrefused hid]

variable [Ron.Codec α]

/-- A session is clean after a method that cleans it, and the ship is left alone. -/
theorem Op.Cleans.apply_eq {s : Session α} {op : Op α} (h : op.Cleans s) :
    s.apply op = s.markClean := by
  cases h with
  | markClean => rfl
  | saveTo h =>
    simp only [Session.apply, h]
    exact (saveTo_eq_ok_iff.mp h).2.1

/-- A session is clean after a method only if the method cleaned it, or if it was clean before and
the ship was left alone. -/
theorem cleans_or_sameShip_apply {s : Session α} {op : Op α} (h : (s.apply op).dirty = false) :
    op.Cleans s ∨ s.dirty = false ∧ s.SameShip (s.apply op) := by
  have hkept : s.apply op = s → op.Cleans s ∨ s.dirty = false ∧ s.SameShip (s.apply op) :=
    fun heq => .inr ⟨heq ▸ h, heq.symm ▸ .refl s⟩
  cases op with
  | add part now => cases part <;> cases h
  | remove kind id now => exact hkept (change_of_clean (c := .remove kind) h)
  | move kind id position now => exact hkept (change_of_clean (c := .move kind position) h)
  | setRadius id radius now => exact hkept (change_of_clean (c := .setRadius radius) h)
  | applyLearning library =>
    cases hprofile : library.get? s.className with
    | some p =>
      simp only [apply, applyLearning, hprofile] at h
      cases h
    | none => exact hkept (by simp only [apply, applyLearning, hprofile])
  | rename name => cases h
  | markClean => exact .inl .markClean
  | saveTo disk folder =>
    cases hsave : (s.saveTo disk folder).2.2 with
    | ok path => exact .inl (.saveTo (Prod.ext rfl (Prod.ext rfl hsave)))
    | error e => exact hkept (congrArg Prod.fst (saveTo_of_error hsave))
  | generate =>
    obtain ⟨graph, hgenerate⟩ := s.exists_generate_eq_withGraph
    have hgenerate : s.apply .generate = { s with assembly := { s.assembly with graph } } :=
      hgenerate
    rw [hgenerate] at h ⊢
    exact .inr ⟨h, rfl, rfl, rfl, rfl, rfl⟩
  | clone => exact hkept rfl

/-- The points of a run at which a session is known to be clean: where it has opened a design, and
after each method that has cleaned it. -/
inductive CleanPoint (s : Session α) : List (Op α) → Prop
  /-- A design was opened and nothing was done yet. -/
  | opened {d : Design α} {settings : Settings α} (h : ofDesign d settings = .ok s) :
    CleanPoint s []
  /-- The session was cleaned by the last method. -/
  | cleaned {before : List (Op α)} {op : Op α} (h : op.Cleans (s.applyAll before)) :
    CleanPoint s (before ++ [op])

/-- After a method the session is known to be clean just if the method cleaned it. -/
theorem cleanPoint_concat_iff {s : Session α} {ops : List (Op α)} {op : Op α} :
    s.CleanPoint (ops ++ [op]) ↔ op.Cleans (s.applyAll ops) := by
  refine ⟨fun h => ?_, .cleaned⟩
  generalize hall : ops ++ [op] = all at h
  cases h with
  | opened => simp at hall
  | @cleaned before op' h =>
    obtain ⟨rfl, hop⟩ := List.append_inj' hall rfl
    obtain rfl := List.singleton_injective hop
    exact h

/-- A session is clean at each of these points. -/
theorem CleanPoint.dirty_eq {s : Session α} {ops : List (Op α)} (h : s.CleanPoint ops) :
    (s.applyAll ops).dirty = false := by
  cases h with
  | opened h =>
    obtain ⟨-, rfl⟩ := ofDesign_eq_ok_iff.mp h
    rfl
  | cleaned h =>
    rw [applyAll_concat, h.apply_eq]
    rfl

/-- A part of a run that ends at the last point at which the session is known to be clean. -/
structure LastClean (s : Session α) (before ops : List (Op α)) : Prop where
  /-- It is a part of the run. -/
  isPrefix : before <+: ops
  /-- The session is known to be clean there. -/
  cleanPoint : s.CleanPoint before
  /-- No other such point comes after it. -/
  last : ∀ p, p <+: ops → s.CleanPoint p → p <+: before

/-- A session that is clean is on the ship that it was on at the last point at which it was known to
be clean, and there is such a point. -/
theorem Opened.exists_lastClean {s : Session α} (h : s.Opened) {ops : List (Op α)}
    (hclean : (s.applyAll ops).dirty = false) :
    ∃ before, s.LastClean before ops ∧ (s.applyAll before).SameShip (s.applyAll ops) := by
  induction ops using List.reverseRecOn with
  | nil =>
    cases h with
    | newShip id className seed settings => cases hclean
    | ofDesign h =>
      exact ⟨[], ⟨List.prefix_rfl, .opened h, fun p hp _ => hp⟩, .refl _⟩
  | append_singleton ops op ih =>
    by_cases hcleans : op.Cleans (s.applyAll ops)
    · exact ⟨ops ++ [op], ⟨List.prefix_rfl, .cleaned hcleans, fun p hp _ => hp⟩, .refl _⟩
    rw [applyAll_concat] at hclean ⊢
    obtain ⟨hdirty, hsame⟩ := (cleans_or_sameShip_apply hclean).resolve_left hcleans
    obtain ⟨before, hlast, hbefore⟩ := ih hdirty
    refine ⟨before, ⟨hlast.isPrefix.trans (List.prefix_append ..), hlast.cleanPoint, ?_⟩,
      hbefore.trans hsame⟩
    intro p hp hpoint
    rcases List.prefix_concat_iff.mp hp with rfl | hp
    · exact absurd (cleanPoint_concat_iff.mp hpoint) hcleans
    · exact hlast.last p hp hpoint

/-- However a session was opened and whatever its methods have done since: it is clean wherever it
is known to be. If it is clean at the end there was such a point, and it is still on the ship that
it was on at the last one, with the same elements. If that was where it was saved, the design whose
text was written to the file describes the ship still, and it comes out of the file again as long as
its floats are numbers. Saving that fails changes nothing about the session, nor about the disk. -/
theorem clean_session_is_kept {s : Session Single} (h : s.Opened) (ops : List (Op Single)) :
    (∀ before, s.CleanPoint before → (s.applyAll before).dirty = false) ∧
    ((s.applyAll ops).dirty = false → ∃ before, s.LastClean before ops ∧
      (s.applyAll before).SameShip (s.applyAll ops) ∧
      ∀ earlier disk disk' folder path t, before = earlier ++ [.saveTo disk folder] →
        (s.applyAll earlier).saveTo disk folder = (t, disk', .ok path) →
        let d := (s.applyAll earlier).toDesign
        disk'.read path = .ok d.toText ∧ Describes d (s.applyAll ops) ∧
          ((∀ x ∈ d.scalars, x.isNaN = false) → Design.load disk' path = .ok d)) ∧
    ∀ disk folder e, ((s.applyAll ops).saveTo disk folder).2.2 = .error e →
      (s.applyAll ops).saveTo disk folder = (s.applyAll ops, disk, .error e) ∧
      s.applyAll (ops ++ [.saveTo disk folder]) = s.applyAll ops := by
  refine ⟨fun _ => CleanPoint.dirty_eq, fun hclean => ?_, fun disk folder e hfailed => ?_⟩
  · obtain ⟨before, hlast, hsame⟩ := h.exists_lastClean hclean
    refine ⟨before, hlast, hsame, ?_⟩
    rintro earlier disk disk' folder path t rfl hsaved
    obtain ⟨hsave, -⟩ := saveTo_eq_ok_iff.mp hsaved
    have hmarked :
        (s.applyAll earlier).SameShip (s.applyAll (earlier ++ [.saveTo disk folder])) := by
      rw [applyAll_concat, (Op.Cleans.saveTo hsaved).apply_eq]
      exact ⟨rfl, rfl, rfl, rfl, rfl⟩
    exact ⟨Disk.read_write (Design.save_eq_ok_iff.mp hsave).2, (hmarked.trans hsame).describes,
      fun hnumbers => Design.load_of_save hnumbers hsave⟩
  · rw [applyAll_concat]
    exact ⟨saveTo_of_error hfailed, congrArg Prod.fst (saveTo_of_error hfailed)⟩

/-- The patchwork ship is renamed and saved; then a light that does not exist is moved. -/
def keptPatchwork : List (Op Single) :=
  [.rename "Kept", .saveTo .empty ⟨""⟩] ++ [.move .light ⟨9⟩ .unitX 5]

/-- The session is clean after that, the file that was written holds the renamed ship, and the
session cannot be saved in a folder that does not exist. -/
theorem clean_keptPatchwork :
    ∃ s : Session Single, ofDesign .patchwork .standard = .ok s ∧
      (s.applyAll keptPatchwork).dirty = false ∧
      (∃ disk d, Design.load disk ⟨"p-1.ship.ron"⟩ = .ok d ∧ d.name = "Kept" ∧
        Describes d (s.applyAll keptPatchwork)) ∧
      (s.applyAll keptPatchwork).saveTo .empty ⟨"missing"⟩ =
        (s.applyAll keptPatchwork, .empty, .error (.disk .notFound)) ∧
      s.applyAll (keptPatchwork ++ [.saveTo .empty ⟨"missing"⟩]) = s.applyAll keptPatchwork := by
  have hopen : ∃ s : Session Single, ofDesign .patchwork .standard = .ok s ∧
      (s.applyAll keptPatchwork).dirty = false ∧
      (∃ disk t, (s.applyAll [.rename "Kept"]).saveTo .empty ⟨""⟩ =
        (t, disk, .ok ⟨"p-1.ship.ron"⟩)) ∧
      (s.applyAll [.rename "Kept"]).toDesign.name = "Kept" ∧
      (∀ x ∈ (s.applyAll [.rename "Kept"]).toDesign.scalars, x.isNaN = false) ∧
      ((s.applyAll keptPatchwork).saveTo .empty ⟨"missing"⟩).2.2 = .error (.disk .notFound) :=
    ⟨_, rfl, rfl, ⟨_, _, rfl⟩, rfl, by decide, rfl⟩
  obtain ⟨s, hs, hclean, ⟨disk, t, hsaved⟩, hname, hnumbers, hfailed⟩ := hopen
  obtain ⟨-, hkept, hunsaved⟩ := clean_session_is_kept (.ofDesign hs) keptPatchwork
  obtain ⟨before, hlast, -, hfile⟩ := hkept hclean
  have hbefore : before = [.rename "Kept", .saveTo .empty ⟨""⟩] := by
    have hsave : s.CleanPoint ([.rename "Kept"] ++ [.saveTo .empty ⟨""⟩]) :=
      .cleaned (.saveTo hsaved)
    rcases List.prefix_concat_iff.mp hlast.isPrefix with rfl | hearlier
    · cases cleanPoint_concat_iff.mp hlast.cleanPoint
    · exact hearlier.eq_of_length_le (hlast.last _ (List.prefix_append ..) hsave).length_le
  obtain ⟨-, hdescribes, hload⟩ := hfile [.rename "Kept"] _ _ _ _ _ hbefore hsaved
  exact ⟨s, hs, hclean, ⟨disk, _, hload hnumbers, hname, hdescribes⟩, hunsaved _ _ _ hfailed⟩

end Session

end Shipwright
