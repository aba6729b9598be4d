import Shipwright.Proofs.Single
import Shipwright.Proofs.Ron.NonNumber
import Shipwright.Proofs.Ship.SettingsFile
import Shipwright.Ship.Session

/-!
# How far learned profiles are followed

The blend of a settings file is clamped before a profile is applied. Every number a file may give,
infinities included, comes to lie between zero and one. A literal of no number is accepted as well,
and passes the clamp: with it a profile leaves no radius that is a number.
-/

namespace Shipwright

open Ron

namespace Settings

/-- A text of settings gives the blend by a literal of no number. -/
def NamesNonNumber (text : String) : Prop :=
  ∃ exts v fields literal, Reader.document text.toList = some (exts, v) ∧
    v.fields? exts "GenerationSettings" = some fields ∧
    ("learning_blend", .number literal) ∈ fields ∧ literal ∈ Number.nonNumbers

/-- A field with a number for a default is no number just if it is given by a literal of none. -/
theorem isNaN_of_field {exts : Extensions} {fields : List (String × Value)} {name : String}
    {fallback x : Single} (hfallback : fallback.isNaN = false)
    (h : Codec.Says exts fields name fallback x) :
    x.isNaN = true ↔ ∃ literal ∈ Number.nonNumbers, (name, .number literal) ∈ fields := by
  cases h with
  | @given v x honce hread =>
    have hmem : ∀ w, (name, w) ∈ fields ↔ w = v := by
      intro w
      have hfilter : (name, w) ∈ fields ↔ (name, w) ∈ fields.filter (·.1 = name) := by simp
      rw [hfilter, honce]
      simp
    simp only [hmem]
    cases v with
    | number literal => simp [Number.isNaN_iff_of_literal hread]
    | _ => cases hread
  | missing hnone =>
    rw [hfallback, Bool.false_eq_true, false_iff]
    rintro ⟨literal, -, hmem⟩
    exact hnone (List.mem_map.mpr ⟨_, hmem, rfl⟩)

/-- The blend of settings is no number just if their text gives it so. -/
theorem isNaN_blend_iff {text : String} {s : Settings Single} (h : ofText text = .ok s) :
    s.blend.isNaN = true ↔ NamesNonNumber text := by
  obtain ⟨exts, v, fields, hdocument, hfields, -, -, -, -, hblend, -⟩ := describes_of_ofText h
  rw [isNaN_of_field (by decide) hblend]
  constructor
  · rintro ⟨literal, hliteral, hmem⟩
    exact ⟨exts, v, fields, literal, hdocument, hfields, hmem, hliteral⟩
  · rintro ⟨exts', v', fields', literal, hdocument', hfields', hmem, hliteral⟩
    obtain ⟨rfl, rfl⟩ := Prod.mk.inj (Option.some.inj (hdocument.symm.trans hdocument'))
    obtain rfl := Option.some.inj (hfields.symm.trans hfields')
    exact ⟨literal, hliteral, hmem⟩

/-- Settings are loaded just if the text of the file holds them. -/
theorem load_eq_ok_iff {disk : Disk} {p : Path} {s : Settings Single} :
    load disk p = .ok s ↔ ∃ text, disk.read p = .ok text ∧ ofText text = .ok s :=
  Disk.bind_read_eq_ok_iff

/-- A blend that is a number is clamped between zero and one; one that is none stays it. -/
theorem clampedBlend_within_iff (s : Settings Single) :
    Scalar.atMost 0.0 s.clampedBlend = true ∧ Scalar.atMost s.clampedBlend 1.0 = true ↔
      s.blend.isNaN = false := by
  have hzero : (0.0 : Single).isNaN = false := by decide
  have hone : (1.0 : Single).isNaN = false := by decide
  have hbounds : Scalar.atMost (0.0 : Single) 1.0 = true := by decide
  unfold clampedBlend
  cases hblend : s.blend.isNaN with
  | false => simp [Single.atMost_clamp hzero hone hbounds hblend]
  | true => simp [Single.clamp_of_isNaN hblend, Single.atMost_eq_false_of_isNaN, hblend]

end Settings

/-- With a blend that is no number a profile changes nothing or leaves no radius that is a
number. -/
theorem Assembly.isNaN_radius_applyProfile (a : Assembly Single) (p : LearnedProfile Single)
    {blend : Single} (h : blend.isNaN = true) :
    a.applyProfile p blend = a ∨
      ∀ c ∈ (a.applyProfile p blend).elements.controlPoints.items, c.radius.isNaN = true := by
  have hfactor : ∀ width largest : Single, (learnedFactor width largest blend).isNaN = true := by
    intro width largest
    rw [learnedFactor]
    exact Single.isNaN_add (.inr (Single.isNaN_mul (.inl h)))
  unfold applyProfile
  dsimp only
  split
  · exact .inl rfl
  · refine .inr fun c hc => ?_
    obtain ⟨d, -, rfl⟩ := List.mem_map.mp hc
    exact Single.isNaN_mul (.inr (hfactor _ _))

namespace Session

open Settings

/-- A session whose settings were loaded from a file applies learned profiles with a blend between
zero and one just if the text of the file does not give the blend by a literal of no number. If it
does, the blend is no number either, and a profile that is applied leaves no radius that is one. -/
theorem applyLearning_blend {disk : Disk} {path : Path} {s : Session Single}
    (h : Settings.load disk path = .ok s.settings) :
    ∃ text, disk.read path = .ok text ∧
      let blend := s.settings.clampedBlend
      (∀ l : ProfileLibrary Single, (s.applyLearning l).1.assembly =
        ((l.get? s.className).map (s.assembly.applyProfile · blend)).getD s.assembly) ∧
      (Scalar.atMost 0.0 blend = true ∧ Scalar.atMost blend 1.0 = true ↔ ¬NamesNonNumber text) ∧
      (NamesNonNumber text → blend.isNaN = true ∧
        ∀ p, s.assembly.applyProfile p blend = s.assembly ∨
          ∀ c ∈ (s.assembly.applyProfile p blend).elements.controlPoints.items,
            c.radius.isNaN = true) := by
  obtain ⟨text, hread, htext⟩ := Settings.load_eq_ok_iff.mp h
  have hnan := isNaN_blend_iff htext
  refine ⟨text, hread, fun l => ?_, ?_, fun hnames => ?_⟩
  · unfold applyLearning
    split
    · rename_i hp
      rw [hp]
      rfl
    · rename_i hp
      rw [hp]
      rfl
  · rw [clampedBlend_within_iff, ← hnan, Bool.not_eq_true]
  · have hblend : s.settings.clampedBlend.isNaN = true := by
      rw [clampedBlend, Single.clamp_of_isNaN (hnan.mpr hnames), hnan.mpr hnames]
    exact ⟨hblend, fun p => s.assembly.isNaN_radius_applyProfile p hblend⟩

/-- A disk with one file, of settings. -/
def settingsDisk (text : String) : Disk := ⟨[], Disk.empty.files.set ["hullforge.ron"] text⟩

/-- A frigate of one control point. -/
def lonePoint (settings : Settings Single) : Session Single :=
  ⟨"x", "", "Frigate", 0,
    { Assembly.empty with
      elements := { Elements.empty with controlPoints := ⟨[.at .zero 1.0]⟩ } },
    settings, false⟩

/-- From negative infinity the blend is clamped to between zero and one; by `NaN` it is given as no
number. -/
theorem applyLearning_blend_lonePoint :
    (∃ settings, Settings.load (settingsDisk "(learning_blend: -inf)") ⟨"hullforge.ron"⟩ =
        .ok (lonePoint settings).settings ∧
      Scalar.atMost 0.0 settings.clampedBlend = true ∧
      Scalar.atMost settings.clampedBlend 1.0 = true) ∧
    ∃ settings, Settings.load (settingsDisk "(learning_blend: NaN)") ⟨"hullforge.ron"⟩ =
        .ok (lonePoint settings).settings ∧ settings.clampedBlend.isNaN = true := by
  constructor
  · obtain ⟨settings, hload⟩ : ∃ settings,
        Settings.load (settingsDisk "(learning_blend: -inf)") ⟨"hullforge.ron"⟩ =
          .ok (lonePoint settings).settings := ⟨_, rfl⟩
    obtain ⟨text, hread, -, hwithin, -⟩ := applyLearning_blend hload
    obtain rfl : "(learning_blend: -inf)" = text := Except.ok.inj hread
    refine ⟨settings, hload, hwithin.mpr ?_⟩
    rintro ⟨exts, v, fields, literal, hdocument, hfields, hmem, hliteral⟩
    obtain ⟨rfl, rfl⟩ : Extensions.none = exts ∧
        Value.record none [("learning_blend", .number "-inf")] = v :=
      Prod.mk.inj (Option.some.inj hdocument)
    obtain rfl : [("learning_blend", .number "-inf")] = fields := Option.some.inj hfields
    obtain rfl : literal = "-inf" := by simpa using hmem
    exact absurd hliteral (by decide)
  · obtain ⟨settings, hload⟩ : ∃ settings,
        Settings.load (settingsDisk "(learning_blend: NaN)") ⟨"hullforge.ron"⟩ =
          .ok (lonePoint settings).settings := ⟨_, rfl⟩
    obtain ⟨text, hread, -, -, hnan⟩ := applyLearning_blend hload
    obtain rfl : "(learning_blend: NaN)" = text := Except.ok.inj hread
    exact ⟨settings, hload, (hnan ⟨.none, .record none [("learning_blend", .number "NaN")],
      [("learning_blend", .number "NaN")], "NaN", rfl, rfl, .head _, by decide⟩).1⟩

/-- The settings `(learning_blend: NaN)` are accepted, and the blend that a profile is applied with
is neither at least zero nor at most one: a ship that has learned from itself alone, and should stay
as it is, is left with a radius that is no number. -/
theorem nonNumber_blend_applied :
    ∃ settings, Settings.load (settingsDisk "(learning_blend: NaN)") ⟨"hullforge.ron"⟩ =
        .ok settings ∧
      Scalar.atMost 0.0 settings.clampedBlend = false ∧
      Scalar.atMost settings.clampedBlend 1.0 = false ∧
      let s := lonePoint settings
      (s.applyLearning (s.learnInto .empty)).1.assembly.elements.controlPoints.items.map
        (·.radius.isNaN) = [true] := by
  refine ⟨_, rfl, ?_, ?_, ?_⟩
  · decide +kernel
  · decide +kernel
  · decide +kernel

end Session

end Shipwright
