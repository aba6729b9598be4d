import Shipwright.Text.Blank
import Mathlib.Data.List.DropRight

/-!
# White space around a text

The table of white space is checked against its characters one by one. Trimming takes off all white
space before and behind a text and nothing else, so that what it leaves can be told without it: the
one part of the text with white space only around it that neither begins nor ends with any.
-/

namespace Shipwright

namespace CodePointSet

/-- A set without boundaries has no character. -/
theorem contains_nil (c : Char) : contains ⟨[]⟩ c = false := rfl

/-- The first two boundaries of a set enclose its first run. -/
theorem contains_cons_cons (a b : Nat) (rest : List Nat) (c : Char) :
    contains ⟨a :: b :: rest⟩ c = true ↔
      a ≤ c.toNat ∧ (c.toNat < b ∨ contains ⟨rest⟩ c = true) := by
  by_cases ha : a ≤ c.toNat
  · by_cases hb : b ≤ c.toNat
    · simp only [contains, List.takeWhile_cons, ha, hb, decide_true, ite_true, List.length_cons,
        true_and, Nat.not_lt.mpr hb, false_or, decide_eq_true_eq]
      omega
    · simp [contains, ha, hb, Nat.lt_of_not_le hb]
  · simp [contains, ha]

end CodePointSet

/-- The 25 characters of white space. -/
def whiteSpaceCodePoints : List Nat :=
  [0x9, 0xA, 0xB, 0xC, 0xD, 0x20, 0x85, 0xA0, 0x1680, 0x2000, 0x2001, 0x2002, 0x2003, 0x2004,
    0x2005, 0x2006, 0x2007, 0x2008, 0x2009, 0x200A, 0x2028, 0x2029, 0x202F, 0x205F, 0x3000]

/-- The table has these characters and no others. -/
theorem isWhiteSpace_iff (c : Char) :
    isWhiteSpace c = true ↔ c.toNat ∈ whiteSpaceCodePoints := by
  simp only [isWhiteSpace, whiteSpace, CodePointSet.contains_cons_cons,
    CodePointSet.contains_nil, Bool.false_eq_true, whiteSpaceCodePoints, List.mem_cons,
    List.not_mem_nil, or_false]
  omega

/-- A text of white space only. -/
def Blank (cs : List Char) : Prop := ∀ c ∈ cs, c.toNat ∈ whiteSpaceCodePoints

/-- A text without the white space before and behind it. -/
structure Trimmed (cs core : List Char) : Prop where
  /-- White space is all that is left out. -/
  around : ∃ before after, Blank before ∧ Blank after ∧ cs = before ++ core ++ after
  /-- What is left does not begin with white space. -/
  head : ∀ c ∈ core.head?, c.toNat ∉ whiteSpaceCodePoints
  /-- What is left does not end with white space. -/
  last : ∀ c ∈ core.getLast?, c.toNat ∉ whiteSpaceCodePoints

/-- A text of white space only is one that the table has all of. -/
theorem blank_iff {cs : List Char} : Blank cs ↔ ∀ c ∈ cs, isWhiteSpace c = true := by
  simp only [Blank, isWhiteSpace_iff]

/-- Trimming leaves a text without the white space around it. -/
theorem trimmed_trim (cs : List Char) : Trimmed cs (trim cs) := by
  have htrim : trim cs = (cs.dropWhile isWhiteSpace).rdropWhile isWhiteSpace := rfl
  have hbegins : trim cs <+: cs.dropWhile isWhiteSpace := htrim ▸ List.rdropWhile_prefix _ _
  refine ⟨⟨cs.takeWhile isWhiteSpace, (cs.dropWhile isWhiteSpace).rtakeWhile isWhiteSpace,
    ?_, ?_, ?_⟩, ?_, ?_⟩
  · exact blank_iff.mpr fun _ hc => List.mem_takeWhile_imp hc
  · exact blank_iff.mpr fun _ hc => List.mem_rtakeWhile_imp hc
  · rw [List.append_assoc, htrim, List.rdropWhile_append_rtakeWhile,
      List.takeWhile_append_dropWhile]
  · intro c hc
    have hfirst : (cs.dropWhile isWhiteSpace).head? = some c := by
      obtain ⟨rest, hrest⟩ := hbegins
      rw [← hrest, List.head?_append, hc, Option.some_or]
    have hno := List.head?_dropWhile_not isWhiteSpace cs
    rw [hfirst] at hno
    rw [← isWhiteSpace_iff, hno]
    exact Bool.false_ne_true
  · intro c hc
    obtain ⟨hne, rfl⟩ := List.mem_getLast?_eq_getLast hc
    rw [← isWhiteSpace_iff]
    exact List.rdropWhile_last_not isWhiteSpace (cs.dropWhile isWhiteSpace) hne

/-- Only one part of a text is what is left without the white space around it. -/
theorem Trimmed.trim_eq {cs core : List Char} (h : Trimmed cs core) : trim cs = core := by
  obtain ⟨⟨before, after, hbefore, hafter, rfl⟩, hhead, hlast⟩ := h
  have htrim : trim (before ++ core ++ after) =
      ((core ++ after).dropWhile isWhiteSpace).rdropWhile isWhiteSpace := by
    rw [trim, List.append_assoc, List.dropWhile_append_of_pos (blank_iff.mp hbefore)]
    rfl
  rw [htrim]
  cases core with
  | nil =>
    rw [List.nil_append, List.dropWhile_eq_nil_iff.mpr (blank_iff.mp hafter), List.rdropWhile_nil]
  | cons c core =>
    have hc : ¬ isWhiteSpace c = true := (isWhiteSpace_iff c).not.mpr (hhead c rfl)
    have hafter : ∀ x ∈ after.reverse, isWhiteSpace x = true := fun x hx =>
      blank_iff.mp hafter x (List.mem_reverse.mp hx)
    have hkept : (c :: core).rdropWhile isWhiteSpace = c :: core :=
      List.rdropWhile_eq_self_iff.mpr fun hne =>
        (isWhiteSpace_iff _).not.mpr (hlast _ (List.getLast?_eq_getLast_of_ne_nil hne))
    rw [List.cons_append, List.dropWhile_cons_of_neg hc, ← List.cons_append, List.rdropWhile,
      List.reverse_append, List.dropWhile_append_of_pos hafter]
    exact hkept

/-- Trimming finds the part of a text that is left without the white space around it. -/
theorem trim_eq_iff {cs core : List Char} : trim cs = core ↔ Trimmed cs core :=
  ⟨fun h => h ▸ trimmed_trim cs, Trimmed.trim_eq⟩

end Shipwright
