import Shipwright.Ron.Reader
import Shipwright.Proofs.Decimal.Text

/-!
# Written numbers

The digits of a number have that number for a value in every base the notation knows, so an
integer is read back from its digits by every type that holds it. A real is written with
characters that all belong to one literal; whether that literal is the same real again is a
matter of the decimal and not of the notation.
-/

namespace Shipwright.Ron

namespace Number

section Digits

/-- The digits up to sixteen are read as themselves. -/
theorem hexDigit?_digitChar {d : Nat} (h : d < 16) : hexDigit? (Nat.digitChar d) = some d := by
  revert d
  decide

/-- Every character of a number's digits is a digit of its base. -/
theorem exists_digit_of_mem_toDigits {b : Nat} (hb : 1 < b) {n : Nat} {c : Char}
    (hc : c ∈ Nat.toDigits b n) : ∃ d < b, c = Nat.digitChar d := by
  induction n using Nat.strong_induction_on with
  | h n ih =>
    rw [Nat.toDigits_eq_if hb] at hc
    split at hc
    · rename_i hn
      exact ⟨n, hn, by simpa using hc⟩
    · rename_i hn
      rcases List.mem_append.mp hc with hc | hc
      · exact ih (n / b) (Nat.div_lt_self (by omega) hb) hc
      · exact ⟨n % b, Nat.mod_lt n (by omega), by simpa using hc⟩

/-- No digit is an underscore or a brace. -/
theorem digitChar_ne {d : Nat} (h : d < 16) :
    Nat.digitChar d ≠ '_' ∧ Nat.digitChar d ≠ '\x7d' := by
  revert d
  decide

/-- Digits behind others count on from their value. -/
theorem valueFrom_append (b n : Nat) (cs ds : List Char) :
    valueFrom b n (cs ++ ds) = (valueFrom b n cs).bind fun m => valueFrom b m ds := by
  induction cs generalizing n with
  | nil => rfl
  | cons c cs ih =>
    simp only [List.cons_append, valueFrom]
    split
    · exact ih n
    · split
      · split
        · exact ih _
        · rfl
      · rfl

/-- One more digit multiplies by the base and adds the digit. -/
theorem valueFrom_digit {b d : Nat} (hb : b ≤ 16) (hd : d < b) (n : Nat) :
    valueFrom b n [Nat.digitChar d] = some (b * n + d) := by
  have hlt : d < 16 := by omega
  simp only [valueFrom, (digitChar_ne hlt).1, hexDigit?_digitChar hlt, hd, ↓reduceIte]

/-- The digits of a number have that number for a value. -/
theorem valueFrom_toDigits {b : Nat} (hb : 1 < b) (hb' : b ≤ 16) (n : Nat) :
    valueFrom b 0 (Nat.toDigits b n) = some n := by
  induction n using Nat.strong_induction_on with
  | h n ih =>
    rw [Nat.toDigits_eq_if hb]
    split
    · rename_i hn
      rw [valueFrom_digit hb' hn, Nat.mul_zero, Nat.zero_add]
    · rename_i hn
      rw [valueFrom_append, ih (n / b) (Nat.div_lt_self (by omega) hb), Option.bind_some,
        valueFrom_digit hb' (Nat.mod_lt n (by omega)), Nat.div_add_mod]

end Digits

section Integers

open Decimal

/-- A decimal digit is none of the characters that end the digits of an integer or begin
another base. -/
theorem isDigit_ne {c : Char} (h : c.isDigit = true) :
    c ≠ '+' ∧ c ≠ '-' ∧ c ≠ '_' ∧ c ≠ 'b' ∧ c ≠ 'o' ∧ c ≠ 'x' := by
  refine ⟨?_, ?_, ?_, ?_, ?_, ?_⟩ <;> rintro rfl <;> contradiction

/-- A literal whose characters are all digits carries no sign. -/
theorem spanSign_of_isDigit {cs : List Char} (h : ∀ c ∈ cs, c.isDigit = true) :
    spanSign cs = (false, cs) := by
  unfold spanSign
  split
  · exact absurd rfl (isDigit_ne (h '+' (by simp))).1
  · exact absurd rfl (isDigit_ne (h '-' (by simp))).2.1
  · rfl

/-- A literal whose characters are all digits carries no type name. -/
theorem spanType_of_isDigit {cs : List Char} (h : ∀ c ∈ cs, c.isDigit = true) :
    spanType cs = (cs, []) := by
  have hlike : ∀ c ∈ cs, isDigitLike c = true := by
    intro c hc
    simp [isDigitLike, hexDigit?, h c hc]
  simp only [spanType, List.dropWhile_eq_nil_iff.mpr hlike]

/-- A literal whose characters are all digits is read in base ten. -/
theorem unsigned?_of_isDigit {cs : List Char} (h : ∀ c ∈ cs, c.isDigit = true) (hne : cs ≠ []) :
    unsigned? cs = valueFrom 10 0 cs := by
  unfold unsigned?
  split
  · exact absurd rfl (isDigit_ne (h 'b' (by simp))).2.2.2.1
  · exact absurd rfl (isDigit_ne (h 'x' (by simp))).2.2.2.2.2
  · exact absurd rfl (isDigit_ne (h 'o' (by simp))).2.2.2.2.1
  · unfold digits?
    split
    · exact absurd rfl hne
    · exact absurd rfl (isDigit_ne (h '_' (by simp))).2.2.1
    · rfl

/-- The digits of a number are an integer literal without a type name. -/
theorem integer?_digits (n : Nat) : integer? (digits n) = some ((n : Int), "") := by
  have hdigits : ∀ c ∈ digits n, c.isDigit = true := fun _ hc => isDigit_of_mem_digits hc
  have hvalue : unsigned? (digits n) = some n := by
    rw [unsigned?_of_isDigit hdigits Nat.toDigits_ne_nil]
    exact valueFrom_toDigits (by decide) (by decide) n
  simp [integer?, spanSign_of_isDigit hdigits, spanType_of_isDigit hdigits, hvalue]

/-- A number is written by its digits. -/
theorem ofInt_natCast (n : Nat) : ofInt n = digits n := by
  simp [ofInt, show ¬ (n : Int) < 0 by omega]

/-- A written number is read back by every type that holds it. -/
theorem integerOf?_ofInt {t : IntegerType} {n : Nat} (h : t.holds n = true) :
    integerOf? t (String.ofList (ofInt n)) = some (n : Int) := by
  simp [integerOf?, ofInt_natCast, integer?_digits, h]

/-- An unsigned type holds the numbers of its bits. -/
theorem holds_unsigned {bits n : Nat} (h : n < 2 ^ bits) :
    (IntegerType.unsigned bits).holds n = true := by
  have hn : (n : Int) < (Nat.pow 2 bits : Nat) := Int.ofNat_lt.mpr h
  simp only [IntegerType.holds, IntegerType.unsigned, Bool.and_eq_true]
  exact ⟨decide_eq_true (Int.natCast_nonneg n), decide_eq_true (Int.le_sub_one_of_lt hn)⟩

/-- A written number of up to 64 bits is a literal. -/
theorem isLiteral_digits {n : Nat} (h : n < 2 ^ 64) : isLiteral (digits n) = true := by
  have hlow : (IntegerType.signed 64).low ≤ n := by
    have : (IntegerType.signed 64).low ≤ 0 := by decide
    omega
  have hhigh : (n : Int) ≤ (IntegerType.unsigned 64).high := by
    have : (IntegerType.unsigned 64).high = 2 ^ 64 - 1 := by decide
    omega
  simp [isLiteral, isInteger, integer?_digits, IntegerType.holds, hlow, hhigh]

end Integers

section Reals

open Decimal

/-- A literal without underscores keeps all its characters. -/
theorem dropUnderscores_eq_some {cs : List Char} (h : '_' ∉ cs) (allowed : Bool) :
    dropUnderscores allowed cs = some cs := by
  induction cs generalizing allowed with
  | nil => rfl
  | cons c cs ih =>
    rw [List.mem_cons, not_or] at h
    simp only [dropUnderscores, Ne.symm h.1, ↓reduceIte]
    rw [ih h.2]
    rfl

/-- The characters of a pointed text behind a sign. -/
theorem mem_signed_chars {p : Positional} {negative : Bool} {c : Char}
    (hc : c ∈ signed negative p.chars) : c.isDigit = true ∨ c = '.' ∨ c = '-' := by
  have hdigits := p.isDigit c
  unfold signed Positional.chars at hc
  cases negative <;> simp_all <;> tauto

/-- A pointed text is not the name of a real. -/
theorem find?_names_signed (p : Positional) (negative : Bool) :
    (names.find? fun name => name.toList.isPrefixOf (signed negative p.chars)) = none := by
  obtain ⟨c, cs, hchars, hdigit⟩ := p.exists_cons
  have hi : c ≠ 'i' := by rintro rfl; contradiction
  have hN : c ≠ 'N' := by rintro rfl; contradiction
  have hplus : c ≠ '+' := by rintro rfl; contradiction
  have hminus : c ≠ '-' := by rintro rfl; contradiction
  cases negative <;>
    simp [names, signed, hchars, List.isPrefixOf, hi.symm, hN.symm, hplus.symm, hminus.symm]

/-- A pointed text is a real literal without a type name. -/
theorem real?_signed {p : Positional} {negative : Bool} {x : Single}
    (h : Decimal.single? (signed negative p.chars) = some x) :
    real? (signed negative p.chars) = some (x, "") := by
  have hlike : ∀ c ∈ signed negative p.chars, isRealLike c = true := by
    intro c hc
    rcases mem_signed_chars hc with hc | rfl | rfl
    · simp [isRealLike, hc]
    · rfl
    · rfl
  have hunderscore : '_' ∉ signed negative p.chars := by
    intro hc
    rcases mem_signed_chars hc with hc | hc | hc <;> contradiction
  simp [real?, find?_names_signed, List.takeWhile_eq_self_iff.mpr hlike,
    List.dropWhile_eq_nil_iff.mpr hlike, dropUnderscores_eq_some hunderscore, h]

/-- The name of infinity is a real literal without a type name. -/
theorem real?_infinity (negative : Bool) :
    real? (signed negative ['i', 'n', 'f']) =
      (Decimal.single? (signed negative ['i', 'n', 'f'])).map (·, "") := by
  cases negative <;> rfl

/-- A written number is a real literal of it without a type name. -/
theorem real?_ofSingle {x : Single} (h : x.isNaN = false) : real? (ofSingle x) = some (x, "") := by
  have hread := single?_ofSingle h
  rcases ofBits_cases (isNaN_eq_false_iff.mp h) with ⟨-, htext⟩ | ⟨p, htext, -⟩
  · rw [ofSingle, htext] at hread ⊢
    rw [real?_infinity, hread, Option.map_some]
  · rw [ofSingle, htext] at hread ⊢
    exact real?_signed hread

/-- A written number is read back as itself. -/
theorem single?_literal {x : Single} (h : x.isNaN = false) :
    single? (String.ofList (ofSingle x)) = some x := by
  simp [single?, real?_ofSingle h]

/-- A written number is a literal. -/
theorem isLiteral_ofSingle {x : Single} (h : x.isNaN = false) : isLiteral (ofSingle x) = true := by
  simp [isLiteral, isReal, real?_ofSingle h]

end Reals

end Number

section Numerals

open Decimal

/-- A literal that is read as one number wherever a value may stand: the name of infinity, which
is a word by itself, or literal characters behind a digit or a minus sign. -/
def IsNumeral (cs : List Char) : Prop :=
  cs = ['i', 'n', 'f'] ∨
    Number.isLiteral cs = true ∧ (∀ c ∈ cs, Reader.isLiteralChar c = true) ∧
      ∃ c ∈ cs.head?, c.isDigit = true ∨ c = '-'

/-- A decimal digit may stand in a literal. -/
theorem isLiteralChar_of_isDigit {c : Char} (h : c.isDigit = true) :
    Reader.isLiteralChar c = true := by
  simp [Reader.isLiteralChar, Char.isAlphanum, h]

/-- The digits of a number of up to 64 bits are a numeral. -/
theorem isNumeral_ofInt {n : Nat} (h : n < 2 ^ 64) : IsNumeral (ofInt n) := by
  rw [Number.ofInt_natCast]
  refine .inr ⟨Number.isLiteral_digits h,
    fun c hc => isLiteralChar_of_isDigit (isDigit_of_mem_digits hc), ?_⟩
  obtain ⟨c, cs, hcons⟩ := List.exists_cons_of_ne_nil (Nat.toDigits_ne_nil (n := n) (b := 10))
  have hdigits : digits n = c :: cs := hcons
  exact ⟨c, by simp [hdigits], .inl (isDigit_of_mem_digits (n := n) (by simp [hdigits]))⟩

/-- The text of a float that is a number is a numeral. -/
theorem isNumeral_ofSingle {x : Single} (h : x.isNaN = false) : IsNumeral (ofSingle x) := by
  have hliteral := Number.isLiteral_ofSingle h
  rcases ofBits_cases (isNaN_eq_false_iff.mp h) with ⟨-, htext⟩ | ⟨p, htext, -⟩
  · rw [ofSingle, htext] at hliteral ⊢
    generalize decide (Nat.pow 2 31 ≤ x.bits.toNat) = negative at hliteral ⊢
    cases negative with
    | false => exact .inl rfl
    | true => exact .inr ⟨hliteral, List.all_eq_true.mp (by decide), '-', rfl, .inr rfl⟩
  · rw [ofSingle, htext] at hliteral ⊢
    refine .inr ⟨hliteral, fun c hc => ?_, ?_⟩
    · rcases Number.mem_signed_chars hc with hc | rfl | rfl
      · exact isLiteralChar_of_isDigit hc
      · rfl
      · rfl
    · obtain ⟨c, cs, hchars, hdigit⟩ := p.exists_cons
      by_cases hneg : Nat.pow 2 31 ≤ x.bits.toNat
      · exact ⟨'-', by simp [signed, hneg], .inr rfl⟩
      · exact ⟨c, by simp [signed, hneg, hchars], .inl hdigit⟩

end Numerals

end Shipwright.Ron
