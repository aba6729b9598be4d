import Shipwright.Proofs.Ship.DesignFile
import Shipwright.Ship.Settings

/-!
# Settings kept in files

A settings file may give any of the six fields, in any order. The fields it gives are read back as
they were saved, and every other one has its standard value; a file that gives all of them holds the
settings that were saved. Whatever a text looks like, the settings it describes are refused for
their version just if that is above the newest one, and then the standard settings stand in.
-/

namespace Shipwright

open Ron Codec

namespace Settings

/-- The fields of a settings file. -/
inductive Field where
  /-- The version of the file. -/
  | version
  /-- The ring resolution. -/
  | segments
  /-- The number of turrets. -/
  | turretSlots
  /-- The number of launchers. -/
  | launcherSlots
  /-- How far learned profiles are followed. -/
  | blend
  /-- The features of a new ship. -/
  | features
  deriving DecidableEq, Repr

/-- The fields in the order in which they are saved. -/
def Field.all : List Field := [.version, .segments, .turretSlots, .launcherSlots, .blend, .features]

/-- The name of a field. -/
def Field.label : Field → String
  | .version => "version"
  | .segments => "hull_segments"
  | .turretSlots => "turret_slots"
  | .launcherSlots => "launcher_slots"
  | .blend => "learning_blend"
  | .features => "default_features"

theorem Field.mem_all (f : Field) : f ∈ all := by cases f <;> decide

theorem Field.nodup_all : all.Nodup := by decide

theorem Field.label_injective : Function.Injective label := by
  intro f g h
  revert h
  cases f <;> cases g <;> decide

theorem Field.isName_label (f : Field) : Reader.isName f.label = true := by cases f <;> decide

section Documents

variable {α : Type}

/-- All scalars of settings. -/
def scalars (s : Settings α) : List α := s.blend :: s.features.flatMap (·.scalars)

/-- The settings with some fields taken over and the others left standard. -/
def takeOver [Scalar α] (s : Settings α) (fs : List Field) : Settings α :=
  let standard : Settings α := standard
  { version := if .version ∈ fs then s.version else standard.version
    segments := if .segments ∈ fs then s.segments else standard.segments
    turretSlots := if .turretSlots ∈ fs then s.turretSlots else standard.turretSlots
    launcherSlots := if .launcherSlots ∈ fs then s.launcherSlots else standard.launcherSlots
    blend := if .blend ∈ fs then s.blend else standard.blend
    features := if .features ∈ fs then s.features else standard.features }

/-- With all fields taken over the settings are those themselves. -/
theorem takeOver_of_forall_mem [Scalar α] (s : Settings α) {fs : List Field} (h : ∀ f, f ∈ fs) :
    s.takeOver fs = s := by
  simp only [takeOver, h, if_true]

variable [Codec α]

/-- The value that a field of settings is saved as. -/
def value (s : Settings α) : Field → Value
  | .version => encode s.version
  | .segments => encode s.segments
  | .turretSlots => encode s.turretSlots
  | .launcherSlots => encode s.launcherSlots
  | .blend => encode s.blend
  | .features => encode s.features

/-- Some fields of settings, as they are saved. -/
def entries (s : Settings α) (fs : List Field) : List (String × Value) :=
  fs.map fun f => (f.label, s.value f)

/-- The text of a file that gives some fields of settings in some order, and no others. -/
def textOf (s : Settings α) (fs : List Field) : String :=
  String.ofList ((Value.record (some "GenerationSettings") (s.entries fs)).pretty 0)

/-- Settings are saved with all of their fields. -/
theorem textOf_all [Scalar α] (s : Settings α) : s.textOf Field.all = Codec.write s := rfl

variable {s : Settings α} {n : Nat}

/-- The features of settings are kept. -/
theorem kept_features (h : ∀ a ∈ s.scalars, Plain a) : Kept (n + 4) s.features :=
  kept_list fun e he => kept_feature fun a ha =>
    h a (List.mem_cons_of_mem _ (List.mem_flatMap.mpr ⟨e, he, ha⟩))

/-- Every field of settings is saved as a value that says all of it. -/
theorem written_value (h : ∀ a ∈ s.scalars, Plain a) (f : Field) :
    (s.value f).Written (n + 4) := by
  cases f with
  | version => exact (plain_uint32 s.version _).written
  | segments => exact (plain_uint32 s.segments _).written
  | turretSlots => exact (plain_uint64 s.turretSlots _).written
  | launcherSlots => exact (plain_uint64 s.launcherSlots _).written
  | blend => exact (h s.blend List.mem_cons_self _).written
  | features => exact (kept_features h).written

/-- A file that gives some fields is read as a record of these. A record without any is read as an
empty tuple, which has no fields either. -/
theorem exists_document_textOf (h : ∀ a ∈ s.scalars, Plain a) (fs : List Field) :
    ∃ v : Value, Reader.document (s.textOf fs).toList = some (.none, v) ∧
      v.fields? .none "GenerationSettings" = some (s.entries fs) := by
  have hname : Reader.isName "GenerationSettings" = true := by decide
  rw [textOf, String.toList_ofList]
  cases fs with
  | nil =>
    have hwritten : (Value.tuple (some "GenerationSettings") false []).Written 64 :=
      .tuple hname (by simp)
    exact ⟨.tuple (some "GenerationSettings") false [], Value.document_pretty hwritten, rfl⟩
  | cons f fs =>
    have hwritten :
        (Value.record (some "GenerationSettings") (s.entries (f :: fs))).Written 64 := by
      refine .record hname (List.cons_ne_nil _ _) ?_ ?_
      · intro e he
        obtain ⟨g, -, rfl⟩ := List.mem_map.mp he
        exact g.isName_label
      · intro e he
        obtain ⟨g, -, rfl⟩ := List.mem_map.mp he
        exact written_value (n := 59) h g
    exact ⟨_, Value.document_pretty hwritten, Value.fields?_record _ _⟩

/-- A file that gives some fields of settings is read as the settings with these taken over. -/
theorem read_textOf [Scalar α] (h : ∀ a ∈ s.scalars, Plain a) {fs : List Field} (hfs : fs.Nodup) :
    Codec.read (Settings α) (s.textOf fs) = some (s.takeOver fs) := by
  obtain ⟨v, hdocument, hfields⟩ := exists_document_textOf h fs
  have hread {τ : Type} [Codec τ] (f : Field) (x fallback : τ)
      (hx : decode .none (s.value f) = some x) :
      withDefault .none (s.entries fs) f.label fallback =
        some (if f ∈ fs then x else fallback) := by
    rw [entries, withDefault_map Field.label_injective hfs, hx]
    split <;> rfl
  have hversion :=
    hread .version _ (standard : Settings α).version (plain_uint32 s.version 0).decoded
  have hsegments := hread .segments _ (standard : Settings α).segments
    (plain_uint32 s.segments 0).decoded
  have hturrets := hread .turretSlots _ (standard : Settings α).turretSlots
    (plain_uint64 s.turretSlots 0).decoded
  have hlaunchers := hread .launcherSlots _ (standard : Settings α).launcherSlots
    (plain_uint64 s.launcherSlots 0).decoded
  have hblend :=
    hread .blend _ (standard : Settings α).blend (h s.blend List.mem_cons_self 0).decoded
  have hfeatures := hread .features _ (standard : Settings α).features
    (kept_features (n := 0) h).decoded
  simp only [Field.label] at hversion hsegments hturrets hlaunchers hblend hfeatures
  rw [Codec.read, hdocument, Option.bind_some]
  change (v.fields? .none "GenerationSettings").bind _ = _
  rw [hfields, Option.bind_some]
  simp only [hversion, hsegments, hturrets, hlaunchers, hblend, hfeatures]
  rfl

end Documents

section Texts

variable {α : Type} [Codec α] [Scalar α] {text : String} {s : Settings α}

/-- A text describes settings: it holds a record of that name, which gives each of the six fields
once or leaves it standard. Whatever else the record gives does not matter. -/
def Describes (text : String) (s : Settings α) : Prop :=
  ∃ exts v fields, Reader.document text.toList = some (exts, v) ∧
    v.fields? exts "GenerationSettings" = some fields ∧
    let standard : Settings α := standard
    Says exts fields Field.version.label standard.version s.version ∧
    Says exts fields Field.segments.label standard.segments s.segments ∧
    Says exts fields Field.turretSlots.label standard.turretSlots s.turretSlots ∧
    Says exts fields Field.launcherSlots.label standard.launcherSlots s.launcherSlots ∧
    Says exts fields Field.blend.label standard.blend s.blend ∧
    Says exts fields Field.features.label standard.features s.features

/-- A text is read as the settings it describes. -/
theorem read_eq_some_iff : Codec.read (Settings α) text = some s ↔ Describes text s := by
  constructor
  · intro h
    obtain ⟨⟨exts, v⟩, hdocument, hdecode⟩ := Option.bind_eq_some_iff.mp h
    obtain ⟨fields, hfields, hdecode⟩ := Option.bind_eq_some_iff.mp hdecode
    dsimp only at hdecode
    obtain ⟨version, hversion, hdecode⟩ := Option.bind_eq_some_iff.mp hdecode
    obtain ⟨segments, hsegments, hdecode⟩ := Option.bind_eq_some_iff.mp hdecode
    obtain ⟨turretSlots, hturrets, hdecode⟩ := Option.bind_eq_some_iff.mp hdecode
    obtain ⟨launcherSlots, hlaunchers, hdecode⟩ := Option.bind_eq_some_iff.mp hdecode
    obtain ⟨blend, hblend, hdecode⟩ := Option.bind_eq_some_iff.mp hdecode
    obtain ⟨features, hfeatures, hdecode⟩ := Option.bind_eq_some_iff.mp hdecode
    obtain rfl := Option.some.inj hdecode
    exact ⟨exts, v, fields, hdocument, hfields, withDefault_eq_some_iff.mp hversion,
      withDefault_eq_some_iff.mp hsegments, withDefault_eq_some_iff.mp hturrets,
      withDefault_eq_some_iff.mp hlaunchers, withDefault_eq_some_iff.mp hblend,
      withDefault_eq_some_iff.mp hfeatures⟩
  · rintro ⟨exts, v, fields, hdocument, hfields, hversion, hsegments, hturrets, hlaunchers, hblend,
      hfeatures⟩
    simp only [Field.label, ← withDefault_eq_some_iff]
      at hversion hsegments hturrets hlaunchers hblend hfeatures
    rw [Codec.read, hdocument, Option.bind_some]
    change (v.fields? exts "GenerationSettings").bind _ = _
    rw [hfields, Option.bind_some]
    simp only [hversion, hsegments, hturrets, hlaunchers, hblend, hfeatures]
    rfl

/-- The settings a text describes are refused just if they are of a newer version. -/
theorem ofText_of_describes (h : Describes text s) :
    ofText text =
      if currentVersion < s.version then .error (.unsupportedVersion s.version) else .ok s := by
  rw [ofText, read_eq_some_iff.mpr h]

/-- Only settings that a text describes come out of it. -/
theorem describes_of_ofText (h : ofText text = .ok s) : Describes text s := by
  unfold ofText at h
  split at h
  · cases h
  · rename_i hread
    split at h
    · cases h
    · obtain rfl := Except.ok.inj h
      exact read_eq_some_iff.mp hread

/-- What is loaded from a file is what its text holds. -/
theorem load_of_read {disk : Disk} {p : Path} (h : disk.read p = .ok text) :
    (load disk p : Except SettingsError (Settings α)) = ofText text := by
  rw [load, h]
  rfl

/-- Settings are saved just if their text can be written. -/
theorem save_eq_ok_iff {disk after : Disk} {p : Path} :
    s.save disk p = (after, .ok ()) ↔ disk.write p (Codec.write s) = (after, .ok ()) :=
  mk_mapError_eq_ok_iff

end Texts

/-- A file that gives some fields of settings without non-numbers, in any order, is loaded as the
settings with these taken over, if the version is not above the newest one; from a file that the
settings were saved to they are loaded as they were. A file that describes settings of a newer
version, whatever it looks like, is refused for that version, and the standard settings stand in. -/
theorem loaded_as_given_or_refused :
    (∀ (s : Settings Single) (fs : List Field), (∀ x ∈ s.scalars, x.isNaN = false) →
      s.version ≤ currentVersion → fs.Nodup → ∀ (disk : Disk) (p : Path),
        disk.read p = .ok (s.textOf fs) → load disk p = .ok (s.takeOver fs)) ∧
    (∀ s : Settings Single, (∀ x ∈ s.scalars, x.isNaN = false) → s.version ≤ currentVersion →
      ∀ (disk after : Disk) (p : Path), s.save disk p = (after, .ok ()) → load after p = .ok s) ∧
    ∀ (disk : Disk) (p : Path) (text : String) (s : Settings Single), disk.read p = .ok text →
      Describes text s → currentVersion < s.version →
        load disk p = (.error (.unsupportedVersion s.version) :
          Except SettingsError (Settings Single)) ∧
        (loadOrStandard disk p : Settings Single) = standard := by
  have hpartial : ∀ (s : Settings Single) (fs : List Field), (∀ x ∈ s.scalars, x.isNaN = false) →
      s.version ≤ currentVersion → fs.Nodup → ∀ (disk : Disk) (p : Path),
        disk.read p = .ok (s.textOf fs) → load disk p = .ok (s.takeOver fs) := by
    intro s fs hnumbers hversion hfs disk p hread
    have hdescribes : Describes (s.textOf fs) (s.takeOver fs) :=
      read_eq_some_iff.mp (read_textOf (fun x hx => plain_single (hnumbers x hx)) hfs)
    have hnewest : ¬ currentVersion < (s.takeOver fs).version := by
      rw [UInt32.not_lt]
      simp only [takeOver]
      split
      · exact hversion
      · exact UInt32.le_refl _
    rw [load_of_read hread, ofText_of_describes hdescribes, if_neg hnewest]
  refine ⟨hpartial, fun s hnumbers hversion disk after p hsave => ?_,
    fun disk p text s hread hdescribes hnewer => ?_⟩
  · have hread := Disk.read_write (save_eq_ok_iff.mp hsave)
    rw [← textOf_all] at hread
    have hload := hpartial s Field.all hnumbers hversion Field.nodup_all after p hread
    rwa [takeOver_of_forall_mem s Field.mem_all] at hload
  · have hload : load disk p = (.error (.unsupportedVersion s.version) :
        Except SettingsError (Settings Single)) := by
      rw [load_of_read hread, ofText_of_describes hdescribes, if_pos hnewer]
    refine ⟨hload, ?_⟩
    rw [loadOrStandard, hload]

/-- Settings at the limits of their fields, with an infinity among their features. -/
def extreme : Settings Single :=
  ⟨1, 4294967295, 18446744073709551615, 0, ⟨0x80000001⟩,
    [⟨⟨7⟩, .wing, ⟨⟨0x7F800000⟩, 0.0, 0.0⟩, ⟨1.0, 1.0, 1.0⟩, 0.5⟩, ⟨⟨7⟩, .fin, .zero, .zero, 0.0⟩]⟩

/-- A disk with one file. -/
def oneFile (text : String) : Disk := ⟨[], Disk.empty.files.set ["hullforge.ron"] text⟩

/-- Three fields of the extreme settings, the last one first, are loaded alone, and all of them when
they are saved. A later version is refused although its fields are known. -/
theorem loaded_as_given_or_refused_extreme :
    (∀ x ∈ extreme.scalars, x.isNaN = false) ∧ extreme.version ≤ currentVersion ∧
    ([.features, .segments, .version] : List Field).Nodup ∧
    load (oneFile (extreme.textOf [.features, .segments, .version])) ⟨"hullforge.ron"⟩ =
      .ok { (standard : Settings Single) with
        segments := 4294967295, features := extreme.features } ∧
    (∃ after, extreme.save .empty ⟨"hullforge.ron"⟩ = (after, .ok ()) ∧
      load after ⟨"hullforge.ron"⟩ = .ok extreme) ∧
    ∃ s : Settings Single,
      Describes "(turret_slots: 6, version: 99)" s ∧ currentVersion < s.version ∧
      load (oneFile "(turret_slots: 6, version: 99)") ⟨"hullforge.ron"⟩ =
        (.error (.unsupportedVersion 99) : Except SettingsError (Settings Single)) := by
  have hnumbers : ∀ x ∈ extreme.scalars, x.isNaN = false := by decide
  have hversion : extreme.version ≤ currentVersion := by decide
  have hfields : ([.features, .segments, .version] : List Field).Nodup := by decide
  obtain ⟨hgiven, hsaved, hrefused⟩ := loaded_as_given_or_refused
  have hsave : extreme.save .empty ⟨"hullforge.ron"⟩ =
      (oneFile (Codec.write extreme), .ok ()) := rfl
  have hnewer : Describes "(turret_slots: 6, version: 99)"
      { (standard : Settings Single) with version := 99, turretSlots := 6 } :=
    read_eq_some_iff.mp rfl
  exact ⟨hnumbers, hversion, hfields, hgiven extreme _ hnumbers hversion hfields _ _ rfl,
    ⟨_, hsave, hsaved extreme hnumbers hversion _ _ _ hsave⟩, _, hnewer, by decide,
    (hrefused _ _ _ _ rfl hnewer (by decide)).1⟩

end Settings

end Shipwright
