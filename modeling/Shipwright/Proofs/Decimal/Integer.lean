import Shipwright.Decimal.Integer
import Mathlib.Data.Nat.Digits.Lemmas

/-!
# Integers written in decimal

Which texts denote an integer, and which one, is said by a grammar: an optional sign and one digit
or more, each of which counts by its place. The reader accepts what the grammar does and comes to
the same integer, and the decimal text of an integer denotes it.
-/

namespace Shipwright

namespace Decimal

/-- The number that digits stand for by their places, with the units in the last one. -/
def placeValue (cs : List Char) : Nat :=
  Nat.ofDigits 10 (cs.reverse.map fun c => c.toNat - '0'.toNat)

/-- One digit or more, and nothing else. -/
structure IsNatural (cs : List Char) : Prop where
  /-- There is a digit. -/
  ne_nil : cs ≠ []
  /-- There is nothing else. -/
  isDigit : ∀ c ∈ cs, c.isDigit = true

/-- A text denotes an integer: its digits do, with a sign before them or without one. -/
inductive Denotes : List Char → Int → Prop
  /-- Digits without a sign denote the number they stand for. -/
  | unsigned {cs : List Char} (h : IsNatural cs) : Denotes cs (placeValue cs)
  /-- So they do with a plus sign. -/
  | plus {cs : List Char} (h : IsNatural cs) : Denotes ('+' :: cs) (placeValue cs)
  /-- With a minus sign they denote the number below zero. -/
  | minus {cs : List Char} (h : IsNatural cs) : Denotes ('-' :: cs) (-(placeValue cs))

/-- Digits lie together among the characters. -/
theorem toNat_of_isDigit {c : Char} (h : c.isDigit = true) : 48 ≤ c.toNat ∧ c.toNat ≤ 57 := by
  simpa [Char.isDigit, UInt32.le_iff_toNat_le] using h

/-- The digits of a number are digits. -/
theorem isDigit_of_mem_digits {n : Nat} {c : Char} (h : c ∈ digits n) : c.isDigit = true :=
  Nat.isDigit_of_mem_toDigits (by decide) (by decide) h

/-- The digits of a number are digits, and every number has one. -/
theorem isNatural_digits (n : Nat) : IsNatural (digits n) :=
  ⟨Nat.toDigits_ne_nil, fun _ hc => isDigit_of_mem_digits hc⟩

/-- Reading digits from the first to the last comes to what they stand for by their places. -/
theorem valueFrom_eq_placeValue (cs : List Char) : valueFrom 0 cs = placeValue cs := by
  rw [placeValue, Nat.ofDigits_eq_foldr, List.foldr_map, List.foldr_reverse, valueFrom]
  congr 1
  funext n c
  exact Nat.add_comm _ _

/-- The digits of a number have that number for a value. -/
theorem valueFrom_digits (n : Nat) : valueFrom 0 (digits n) = n := Nat.ofDigitChars_ten_toDigits

/-- So they stand for it by their places. -/
theorem placeValue_digits (n : Nat) : placeValue (digits n) = n :=
  (valueFrom_eq_placeValue _).symm.trans (valueFrom_digits n)

/-- Without a sign, one digit or more is read, and nothing else, as what the digits stand for. -/
theorem natural?_eq_some_iff {cs : List Char} {n : Nat} :
    natural? cs = some n ↔ IsNatural cs ∧ n = placeValue cs := by
  have hdigits : (!cs.isEmpty && cs.all Char.isDigit) = true ↔ IsNatural cs := by
    simp only [Bool.and_eq_true, Bool.not_eq_true', List.isEmpty_eq_false_iff, List.all_eq_true]
    exact ⟨fun ⟨hne, hall⟩ => ⟨hne, hall⟩, fun h => ⟨h.ne_nil, h.isDigit⟩⟩
  rw [natural?, valueFrom_eq_placeValue]
  split
  · rename_i h
    simp [hdigits.mp h, eq_comm]
  · rename_i h
    simp [hdigits.not.mp h]

/-- A text that does not begin with a digit is no natural number. -/
theorem not_isNatural_cons {c : Char} (hc : c.isDigit = false) (cs : List Char) :
    ¬ IsNatural (c :: cs) := by
  intro h
  rw [h.isDigit c (.head _)] at hc
  contradiction

/-- Reading accepts the texts that denote an integer, and comes to the integer they denote. -/
theorem signed?_eq_some_iff {cs : List Char} {i : Int} : signed? cs = some i ↔ Denotes cs i := by
  constructor
  · intro h
    unfold signed? at h
    split at h
    · obtain ⟨n, hn, rfl⟩ := Option.map_eq_some_iff.mp h
      obtain ⟨hcs, rfl⟩ := natural?_eq_some_iff.mp hn
      exact .plus hcs
    · obtain ⟨n, hn, rfl⟩ := Option.map_eq_some_iff.mp h
      obtain ⟨hcs, rfl⟩ := natural?_eq_some_iff.mp hn
      exact .minus hcs
    · obtain ⟨n, hn, rfl⟩ := Option.map_eq_some_iff.mp h
      obtain ⟨hcs, rfl⟩ := natural?_eq_some_iff.mp hn
      exact .unsigned hcs
  · intro h
    cases h with
    | unsigned hcs =>
      have hread := natural?_eq_some_iff.mpr ⟨hcs, rfl⟩
      unfold signed?
      split
      · exact absurd hcs (not_isNatural_cons (by decide) _)
      · exact absurd hcs (not_isNatural_cons (by decide) _)
      · rw [hread]
        rfl
    | plus hcs => simp [signed?, natural?_eq_some_iff.mpr ⟨hcs, rfl⟩]
    | minus hcs => simp [signed?, natural?_eq_some_iff.mpr ⟨hcs, rfl⟩]

/-- The decimal text of an integer denotes it. -/
theorem denotes_ofInt (i : Int) : Denotes (ofInt i) i := by
  have hvalue := placeValue_digits i.natAbs
  unfold ofInt
  split
  · have h := Denotes.minus (isNatural_digits i.natAbs)
    rwa [hvalue, show -(i.natAbs : Int) = i by omega] at h
  · have h := Denotes.unsigned (isNatural_digits i.natAbs)
    rwa [hvalue, show (i.natAbs : Int) = i by omega] at h

/-- A text that denotes an integer has signs and digits and no other characters. -/
theorem Denotes.toNat_of_mem {cs : List Char} {i : Int} (h : Denotes cs i) {c : Char}
    (hc : c ∈ cs) : 43 ≤ c.toNat ∧ c.toNat ≤ 57 := by
  have hdigits : ∀ {ds : List Char}, IsNatural ds → c ∈ ds → 43 ≤ c.toNat ∧ c.toNat ≤ 57 := by
    intro ds hds hc
    have hbounds := toNat_of_isDigit (hds.isDigit c hc)
    omega
  cases h with
  | unsigned hds => exact hdigits hds hc
  | plus hds =>
    rcases List.mem_cons.mp hc with rfl | hc
    · decide
    · exact hdigits hds hc
  | minus hds =>
    rcases List.mem_cons.mp hc with rfl | hc
    · decide
    · exact hdigits hds hc

end Decimal

end Shipwright
