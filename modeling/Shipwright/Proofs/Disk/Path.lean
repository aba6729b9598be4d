import Mathlib.Data.List.Basic
import Shipwright.Disk.Basic

/-!
# Paths behind folders

A name without slashes that is put behind a folder names an entry of the folder: the path starts
where the folder does, passes through the names of the folder and ends with the name. A name with
slashes is none of this. It may lead further down, out of the folder again, or, where it begins with
a slash, anywhere from the root. On a disk the entry lies right below where the folder leads.
-/

namespace Shipwright

namespace Path

/-! ## Pieces -/

/-- The pieces are what the library splits off at slashes. -/
theorem splitSlash_eq_splitOn (cs : List Char) : splitSlash cs = cs.splitOn '/' := by
  induction cs with
  | nil => rfl
  | cons c cs ih =>
    rw [splitSlash, List.splitOn_cons_eq_if_modifyHead, ih]
    obtain ⟨piece, pieces, h⟩ := List.exists_cons_of_ne_nil (List.splitOn_ne_nil '/' cs)
    simp [h]

/-- No piece holds a slash. -/
theorem slash_notMem_of_mem_splitSlash {cs piece : List Char} (h : piece ∈ splitSlash cs) :
    '/' ∉ piece := by
  induction cs generalizing piece with
  | nil => simp_all [splitSlash]
  | cons c cs ih =>
    simp only [splitSlash] at h
    split at h
    · rcases List.mem_cons.mp h with rfl | h
      · exact List.not_mem_nil
      · exact ih h
    · rename_i hc
      split at h
      · rw [List.mem_singleton.mp h, List.mem_singleton]
        exact Ne.symm hc
      · rename_i first pieces hpieces
        rcases List.mem_cons.mp h with rfl | h
        · exact List.not_mem_cons_of_ne_of_not_mem (Ne.symm hc)
            (ih (hpieces ▸ List.mem_cons_self))
        · exact ih (hpieces ▸ List.mem_cons_of_mem _ h)

/-- No piece of a path holds a slash. -/
theorem slash_notMem_of_mem_pieces {p : Path} {piece : String} (h : piece ∈ p.pieces) :
    '/' ∉ piece.toList := by
  obtain ⟨cs, hcs, rfl⟩ := List.mem_map.mp h
  rw [String.toList_ofList]
  exact slash_notMem_of_mem_splitSlash hcs

/-- The pieces on both sides of a slash are the pieces of the whole. -/
theorem pieces_append_slash (front back : String) :
    (⟨front ++ "/" ++ back⟩ : Path).pieces =
      (⟨front⟩ : Path).pieces ++ (⟨back⟩ : Path).pieces := by
  have htext : (front ++ "/" ++ back).toList = front.toList ++ '/' :: back.toList := by simp
  simp only [pieces, htext, splitSlash_eq_splitOn, List.splitOn_append_cons_self, List.map_append]

/-- A name without slashes is a single piece. -/
theorem pieces_of_slash_notMem {name : String} (h : '/' ∉ name.toList) :
    (⟨name⟩ : Path).pieces = [name] := by
  simp [pieces, splitSlash_eq_splitOn, List.splitOn_eq_singleton h]

/-! ## A path behind a folder -/

/-- Joining puts a path behind a slash, unless the folder is empty; a slash that the folder ends in
is that slash. -/
theorem join_cases (folder : Path) {p : Path} (h : p.isAbsolute = false) :
    folder.text = "" ∧ folder.join p = p ∨
      ∃ base, (folder.text = base ++ "/" ∨ folder.text = base ∧ base ≠ "") ∧
        folder.join p = ⟨base ++ "/" ++ p.text⟩ := by
  by_cases hempty : folder.text = ""
  · exact .inl ⟨hempty, by simp [join, h, hempty]⟩
  refine .inr ?_
  cases hslash : folder.endsInSlash with
  | true =>
    obtain ⟨cs, hcs⟩ : ∃ cs, folder.text.toList = cs ++ ['/'] :=
      List.getLast?_eq_some_iff.mp (by simpa [endsInSlash] using hslash)
    have htext : folder.text = String.ofList cs ++ "/" := by
      rw [← String.toList_inj, hcs]
      simp
    exact ⟨String.ofList cs, .inl htext, by simp [join, h, hslash, htext]⟩
  | false => exact ⟨folder.text, .inr ⟨rfl, hempty⟩, by simp [join, h, hslash, hempty]⟩

/-- The pieces of a folder, but for an empty one at the end, stand in front of those of the path
behind it. Nothing stands there only if the folder is empty. -/
theorem exists_pieces_join (folder : Path) {p : Path} (h : p.isAbsolute = false) :
    ∃ front tail, folder.pieces = front ++ tail ∧ (∀ piece ∈ tail, piece = "") ∧
      (folder.join p).pieces = front ++ p.pieces ∧ (front = [] → folder.pieces = [""]) := by
  have hsplit : ∀ text : String, folder.text = text → folder.pieces = (⟨text⟩ : Path).pieces := by
    rintro text rfl
    rfl
  have hblank : (⟨""⟩ : Path).pieces = [""] := rfl
  rcases join_cases folder h with ⟨htext, hjoin⟩ | ⟨base, htext, hjoin⟩
  · have hpieces := hsplit _ htext
    exact ⟨[], [""], hpieces, by simp, by rw [hjoin, List.nil_append], fun _ => hpieces⟩
  · have hne : (⟨base⟩ : Path).pieces ≠ [] := by
      simp [pieces, splitSlash_eq_splitOn, List.splitOn_ne_nil]
    rw [hjoin, pieces_append_slash]
    rcases htext with htext | ⟨htext, -⟩
    · refine ⟨(⟨base⟩ : Path).pieces, [""], ?_, by simp, rfl, fun hnil => absurd hnil hne⟩
      rw [hsplit _ htext, ← hblank, ← pieces_append_slash, String.append_empty]
    · exact ⟨(⟨base⟩ : Path).pieces, [], by rw [hsplit _ htext, List.append_nil], by simp, rfl,
        fun hnil => absurd hnil hne⟩

/-- A path that does not leave its folder at once passes through the names of the folder first. -/
theorem names_join (folder : Path) {p : Path} (h : p.isAbsolute = false) :
    (folder.join p).names = folder.names ++ p.names := by
  obtain ⟨front, tail, hfolder, htail, hjoin, -⟩ := exists_pieces_join folder h
  have hstill : tail.filter (!isStill ·) = [] :=
    List.filter_eq_nil_iff.mpr fun piece hpiece => by simp [htail piece hpiece, isStill]
  simp only [names, hfolder, hjoin, List.filter_append, hstill, List.append_nil]

/-- An absolute path leaves whatever folder it is put behind. -/
theorem join_of_isAbsolute (folder : Path) {p : Path} (h : p.isAbsolute = true) :
    folder.join p = p := by
  rw [join, if_pos h]

/-- Behind a folder a path leads from the root just if the folder does. -/
theorem isAbsolute_join (folder : Path) {p : Path} (h : p.isAbsolute = false) :
    (folder.join p).isAbsolute = folder.isAbsolute := by
  rcases join_cases folder h with ⟨htext, hjoin⟩ | ⟨base, htext, hjoin⟩
  · rw [hjoin, h]
    simp [isAbsolute, htext]
  · rcases htext with htext | ⟨htext, hbase⟩
    · simp [hjoin, isAbsolute, htext]
    · obtain ⟨c, cs, hcs⟩ : ∃ c cs, base.toList = c :: cs :=
        List.exists_cons_of_ne_nil (by simpa using hbase)
      simp [hjoin, isAbsolute, htext, hcs]

/-! ## Entries of a folder -/

/-- Where a path starts. -/
inductive Start where
  /-- At the root. -/
  | root
  /-- At the working folder, which it names by a point. -/
  | here
  /-- At the working folder, without a word about it. -/
  | bare
  deriving DecidableEq, Repr

/-- Where a path starts. -/
def start (p : Path) : Start :=
  if p.isAbsolute then .root else if p.pieces.head? = some "." then .here else .bare

/-- A path is that of an entry of a folder: without its last name it is the path of the folder, and
the last name is that of the entry. -/
structure IsEntry (folder p : Path) (name : String) : Prop where
  /-- The path starts where the folder does. -/
  start : p.start = folder.start
  /-- It passes through the names of the folder. -/
  parent : p.parentNames = folder.names
  /-- It ends with the name. -/
  name : p.fileName? = some name

/-- Behind a folder, a path that begins with a name starts where the folder does. -/
theorem start_join (folder : Path) {p : Path} (h : p.isAbsolute = false)
    (hname : p.pieces.head? ≠ some ".") : (folder.join p).start = folder.start := by
  obtain ⟨front, tail, hfolder, -, hjoin, hnil⟩ := exists_pieces_join folder h
  have hhead : (folder.join p).pieces.head? = some "." ↔ folder.pieces.head? = some "." := by
    cases front with
    | nil =>
      rw [hjoin, hnil rfl]
      simpa using hname
    | cons piece front => simp [hfolder, hjoin]
  simp only [start, isAbsolute_join folder h, hhead]

/-- The last name of a path holds no slash. -/
theorem slash_notMem_of_fileName? {p : Path} {name : String} (h : p.fileName? = some name) :
    '/' ∉ name.toList := by
  obtain ⟨hlast, -⟩ := Option.filter_eq_some_iff.mp h
  exact slash_notMem_of_mem_pieces (List.mem_of_mem_filter (List.mem_of_getLast? hlast))

/-- A name without slashes does not lead from the root. -/
theorem isAbsolute_of_slash_notMem {name : String} (h : '/' ∉ name.toList) :
    (⟨name⟩ : Path).isAbsolute = false := by
  rw [isAbsolute, decide_eq_false_iff_not]
  exact fun hhead => h (List.mem_of_head? hhead)

/-- A name put behind a folder is that of an entry just if it holds no slash. It must not be one of
the pieces that have a meaning of their own. -/
theorem isEntry_join_iff {folder : Path} {name : String} (hstill : isStill name = false)
    (hup : name ≠ "..") : IsEntry folder (folder.join ⟨name⟩) name ↔ '/' ∉ name.toList := by
  refine ⟨fun h => slash_notMem_of_fileName? h.name, fun h => ?_⟩
  have hpieces := pieces_of_slash_notMem h
  have hrelative := isAbsolute_of_slash_notMem h
  have hnames : (folder.join ⟨name⟩).names = folder.names ++ [name] := by
    rw [names_join folder hrelative, names.eq_def ⟨name⟩, hpieces]
    simp [hstill]
  constructor
  case start =>
    refine start_join folder hrelative ?_
    rw [hpieces]
    rintro ⟨⟩
    cases hstill
  case parent => rw [parentNames, hnames, List.dropLast_concat]
  case name => simp [fileName?, hnames, hup]

end Path

/-! ## Where an entry lies -/

namespace Disk

open Shipwright.Path

/-- Where pieces lead is where their first part leads, and on from there. -/
theorem walk_append (d : Disk) (here : Place) (front back : List String) :
    d.walk here (front ++ back) = d.walk here front >>= (d.walk · back) := by
  induction front generalizing here with
  | nil => rfl
  | cons piece front ih =>
    simp only [List.cons_append, walk]
    split
    · exact ih here
    · split
      · exact ih here.dropLast
      · split
        · rfl
        · split
          · exact ih (here ++ [piece])
          · split <;> rfl

/-- Pieces that are empty lead nowhere else. -/
theorem walk_of_empty (d : Disk) (here : Place) {pieces : List String}
    (h : ∀ piece ∈ pieces, piece = "") : d.walk here pieces = .ok here := by
  induction pieces with
  | nil => rfl
  | cons piece pieces ih =>
    rw [walk, if_pos (by simp [isStill, h piece List.mem_cons_self])]
    exact ih fun piece hpiece => h piece (List.mem_cons_of_mem _ hpiece)

/-- A file that can be in a folder lies right below it. -/
theorem placeIn_eq_ok {d : Disk} {base place : Place} {name : String}
    (h : d.placeIn base name = .ok place) : place = base ++ [name] := by
  unfold placeIn at h
  split at h
  · cases h
  · split at h
    · cases h
    · exact (Except.ok.inj h).symm

/-- The file of a name without slashes behind a folder lies right below where the folder leads. -/
theorem exists_walk_of_locate_join {d : Disk} {folder : Path} {name : String} {place : Place}
    (hname : '/' ∉ name.toList) (h : d.locate (folder.join ⟨name⟩) = .ok place) :
    ∃ base, d.walk [] folder.pieces = .ok base ∧ place = base ++ [name] := by
  obtain ⟨-, -, -, base, hwalk, hplace⟩ := locate_eq_ok_iff.mp h
  obtain ⟨front, tail, hfolder, htail, hjoin, -⟩ :=
    exists_pieces_join folder (isAbsolute_of_slash_notMem hname)
  rw [pieces_of_slash_notMem hname] at hjoin
  rw [hjoin, List.dropLast_concat] at hwalk
  rw [hjoin, List.getLastD_concat] at hplace
  refine ⟨base, ?_, placeIn_eq_ok hplace⟩
  rw [hfolder, walk_append, hwalk]
  exact d.walk_of_empty base htail

end Disk

end Shipwright
