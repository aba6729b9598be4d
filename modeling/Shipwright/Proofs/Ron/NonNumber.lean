import Shipwright.Proofs.Ron.Number

/-!
# Literals of no number

A decimal is always read as a number, infinity at most, however large it is. Only the literals that
name the non-number are read as none: `NaN`, with or without a sign and the name of its type.
-/

namespace Shipwright

namespace Decimal

/-- The bits nearest to a decimal are those of infinity at most. -/
theorem magnitudeBits_le (significand : Nat) (exponent : Int) :
    magnitudeBits significand exponent ≤ infinityBits := by
  unfold magnitudeBits
  dsimp only
  split
  · exact Nat.zero_le _
  · split
    · exact Nat.le_refl _
    · exact Nat.min_le_right _ _

/-- A decimal is read as a number. -/
theorem isNaN_toSingle (d : Scientific) : d.toSingle.isNaN = false := by
  have hle := magnitudeBits_le d.significand d.exponent
  have hinfinity : infinityBits < 2 ^ 31 := by decide
  rw [isNaN_eq_false_iff, Scientific.toSingle]
  dsimp only
  rw [UInt32.toNat_ofNat', show Nat.pow 2 31 = 2 ^ 31 from rfl]
  split <;> omega

/-- What is left behind a sign stood in the text. -/
theorem mem_of_mem_spanSign {cs : List Char} {c : Char} (hc : c ∈ (spanSign cs).2) : c ∈ cs := by
  unfold spanSign at hc
  split at hc
  · exact List.mem_cons_of_mem _ hc
  · exact List.mem_cons_of_mem _ hc
  · exact hc

/-- A text is read as no number just if it is the name of it behind a sign. -/
theorem isNaN_iff_of_single? {cs : List Char} {x : Single} (h : single? cs = some x) :
    x.isNaN = true ↔ String.ofList ((spanSign cs).2.map Char.toLower) = "nan" := by
  unfold single? at h
  dsimp only at h
  split at h
  · rename_i hword
    obtain rfl := Option.some.inj h
    rcases hword with hword | hword <;> rw [hword] <;> cases (spanSign cs).1 <;> decide
  · split at h
    · rename_i hword
      obtain rfl := Option.some.inj h
      rw [hword]
      cases (spanSign cs).1 <;> decide
    · rename_i hword
      obtain ⟨d, -, rfl⟩ := Option.map_eq_some_iff.mp h
      simp [isNaN_toSingle, hword]

end Decimal

namespace Ron.Number

open Decimal

/-- The literals of no number. -/
def nonNumbers : List String := ["NaN", "+NaN", "-NaN", "NaNf32", "+NaNf32", "-NaNf32"]

/-- Leaving out underscores brings in no other character. -/
theorem mem_of_dropUnderscores {allowed : Bool} {cs ds : List Char}
    (h : dropUnderscores allowed cs = some ds) {c : Char} (hc : c ∈ ds) : c ∈ cs := by
  induction cs generalizing allowed ds with
  | nil =>
    cases h
    exact hc
  | cons d cs ih =>
    rw [dropUnderscores] at h
    split at h
    · split at h
      · exact List.mem_cons_of_mem _ (ih h hc)
      · cases h
    · obtain ⟨rest, hrest, rfl⟩ := Option.map_eq_some_iff.mp h
      rcases List.mem_cons.mp hc with rfl | hc
      · exact .head _
      · exact List.mem_cons_of_mem _ (ih hrest hc)

/-- No character of a real literal is a letter of the non-number. -/
theorem toLower_ne_of_isRealLike {c : Char} (h : isRealLike c = true) : c.toLower ≠ 'n' := by
  simp only [isRealLike, Bool.or_eq_true, decide_eq_true_eq] at h
  rcases h with (((((h | rfl) | rfl) | rfl) | rfl) | rfl) | rfl
  · rw [toLower_of_isDigit h]
    rintro rfl
    contradiction
  all_goals decide

/-- A literal without a name is read as a number. -/
theorem isNaN_of_isRealLike {cs ds : List Char} {x : Single}
    (hdrop : dropUnderscores false (cs.takeWhile isRealLike) = some ds)
    (h : Decimal.single? ds = some x) : x.isNaN = false := by
  rw [Bool.eq_false_iff, ne_eq, isNaN_iff_of_single? h]
  intro hword
  have hletters : (spanSign ds).2.map Char.toLower = ['n', 'a', 'n'] :=
    String.ofList_injective hword
  obtain ⟨c, hc, hn⟩ : ∃ c ∈ (spanSign ds).2, c.toLower = 'n' :=
    List.mem_map.mp (hletters ▸ .head _)
  have hlike := List.mem_takeWhile_imp (mem_of_dropUnderscores hdrop (mem_of_mem_spanSign hc))
  exact toLower_ne_of_isRealLike hlike hn

/-- A literal is read as a real of single precision if nothing but the name of the type may stand
behind it. -/
theorem exists_real?_of_single? {literal : String} {x : Single} (h : single? literal = some x) :
    ∃ type ∈ ["", "f32"], real? literal.toList = some (x, type) := by
  unfold single? at h
  split at h
  · rename_i y type hreal
    split at h
    · rename_i htype
      obtain rfl := Option.some.inj h
      exact ⟨type, by simpa using htype, hreal⟩
    · cases h
  · cases h

/-- A literal that is read as a real is one of no number just if it is the name of it. -/
theorem isNaN_iff_of_literal {literal : String} {x : Single} (h : single? literal = some x) :
    x.isNaN = true ↔ literal ∈ nonNumbers := by
  have hnames : ∀ name ∈ names, ∀ type ∈ ["", "f32"],
      (Decimal.single? name.toList).map Single.isNaN =
        some (decide (name ++ type ∈ nonNumbers)) := by
    decide
  have hnonNumbers : ∀ l ∈ nonNumbers,
      (names.find? fun name => name.toList.isPrefixOf l.toList) ≠ none := by
    decide
  obtain ⟨type, htype, hreal⟩ := exists_real?_of_single? h
  unfold real? at hreal
  cases hname : names.find? fun name => name.toList.isPrefixOf literal.toList with
  | some name =>
    rw [hname] at hreal
    obtain ⟨y, hy, hpair⟩ := Option.map_eq_some_iff.mp hreal
    obtain ⟨rfl, rfl⟩ := Prod.mk.inj hpair
    have hfound := List.find?_some hname
    obtain ⟨rest, hrest⟩ : name.toList <+: literal.toList := List.isPrefixOf_iff_prefix.mp hfound
    have hliteral : name ++ String.ofList (literal.toList.drop name.length) = literal := by
      rw [← hrest, ← String.length_toList, List.drop_left, ← String.toList_inj,
        String.toList_append, String.toList_ofList, hrest]
    have hnan := hnames name (List.mem_of_find?_eq_some hname) _ htype
    rw [hy, hliteral, Option.map_some, Option.some.injEq] at hnan
    rw [hnan, decide_eq_true_iff]
  | none =>
    rw [hname] at hreal
    have hother : literal ∉ nonNumbers := fun hmem => hnonNumbers literal hmem hname
    cases hread : (dropUnderscores false (literal.toList.takeWhile isRealLike)).bind
        Decimal.single? with
    | none =>
      rw [hread] at hreal
      cases hreal
    | some y =>
      rw [hread] at hreal
      obtain ⟨rfl, -⟩ := Prod.mk.inj (Option.some.inj hreal)
      obtain ⟨ds, hds, hy⟩ := Option.bind_eq_some_iff.mp hread
      simp [isNaN_of_isRealLike hds hy, hother]

end Ron.Number

end Shipwright
