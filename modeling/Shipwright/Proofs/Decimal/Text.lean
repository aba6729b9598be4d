import Shipwright.Decimal.Real
import Shipwright.Proofs.Decimal.Shortest
import Shipwright.Proofs.Graph.Property
import Mathlib.Data.List.TakeWhile

/-!
# Floats written and read back

The text of a float is a sign and either the word for infinity or digits with one point among
them, and the digits stand for the decimal they were laid out from. Read back, the decimal is
rounded to the float it is the shortest decimal of. Only a non-number is not read back: its text
keeps the sign and drops the rest of its bits.
-/

namespace Shipwright

section Spans

variable {τ : Type} {p : τ → Bool} {xs rest : List τ}

/-- A run that ends before what follows is taken off whole. -/
theorem takeWhile_append_eq (h : ∀ x ∈ xs, p x = true) (hrest : ∀ y ∈ rest.head?, p y = false) :
    (xs ++ rest).takeWhile p = xs := by
  rw [List.takeWhile_append_of_pos h]
  cases rest with
  | nil => simp
  | cons y ys => simp [hrest y rfl]

/-- What follows a run that ends before it is left over. -/
theorem dropWhile_append_eq (h : ∀ x ∈ xs, p x = true) (hrest : ∀ y ∈ rest.head?, p y = false) :
    (xs ++ rest).dropWhile p = rest := by
  rw [List.dropWhile_append_of_pos h]
  cases rest with
  | nil => rfl
  | cons y ys => simp [hrest y rfl]

/-- A list is no longer than what its elements turn into, each into something. -/
theorem length_le_length_flatMap {σ : Type} {f : τ → List σ} (h : ∀ x, f x ≠ []) (xs : List τ) :
    xs.length ≤ (xs.flatMap f).length := by
  induction xs with
  | nil => rfl
  | cons x xs ih =>
    have hpos := List.length_pos_iff.mpr (h x)
    simp only [List.flatMap_cons, List.length_append, List.length_cons]
    omega

end Spans

namespace Decimal

section Digits

/-- Digits behind others count on from their value. -/
theorem valueFrom_append (n : Nat) (cs ds : List Char) :
    valueFrom n (cs ++ ds) = valueFrom (valueFrom n cs) ds := List.foldl_append

/-- Zeros at the end multiply by powers of ten. -/
theorem valueFrom_zeros (n count : Nat) :
    valueFrom n (List.replicate count '0') = n * 10 ^ count := by
  induction count generalizing n with
  | zero => simp [valueFrom]
  | succ count ih =>
    rw [List.replicate_succ, ← List.singleton_append, valueFrom_append, ih]
    simp [valueFrom, pow_succ]
    ring

/-- A number has as many digits as powers of ten up to it. -/
theorem digits_bounds {n : Nat} (hn : 0 < n) :
    10 ^ ((digits n).length - 1) ≤ n ∧ n < 10 ^ (digits n).length := by
  have hpos : 0 < (digits n).length := Nat.length_toDigits_pos
  refine ⟨?_, (Nat.length_toDigits_le_iff (by decide) hpos).mp le_rfl⟩
  by_contra hlt
  rcases Nat.eq_zero_or_pos ((digits n).length - 1) with hzero | hmore
  · rw [hzero] at hlt
    omega
  · have := (Nat.length_toDigits_le_iff (by decide) hmore).mpr (not_le.mp hlt)
    have : (digits n).length ≤ (digits n).length - 1 := this
    omega

end Digits

section Positional

/-- A text of digits with a point among them, at least one digit before it. -/
structure Positional where
  /-- The digits before the point. -/
  whole : List Char
  /-- The digits behind the point. -/
  fraction : List Char
  /-- There is a digit before the point. -/
  ne_nil : whole ≠ []
  /-- All other characters are digits. -/
  isDigit : ∀ c ∈ whole ++ fraction, c.isDigit = true

namespace Positional

/-- The text itself. -/
def chars (p : Positional) : List Char := p.whole ++ '.' :: p.fraction

/-- The whole number that all digits write together. -/
def significand (p : Positional) : Nat := valueFrom 0 (p.whole ++ p.fraction)

/-- The number the text stands for. -/
def value (p : Positional) : ℚ := p.significand * 10 ^ (-(p.fraction.length : Int))

/-- The text begins with a digit. -/
theorem exists_cons (p : Positional) : ∃ c cs, p.chars = c :: cs ∧ c.isDigit = true := by
  obtain ⟨c, cs, hwhole⟩ := List.exists_cons_of_ne_nil p.ne_nil
  exact ⟨c, cs ++ '.' :: p.fraction, by simp [chars, hwhole], p.isDigit c (by simp [hwhole])⟩

end Positional

/-- The digits of a number and zeros around them are digits. -/
theorem isDigit_of_mem_padded {n : Nat} {c : Char} {cs : List Char}
    (hc : c ∈ cs) (hcs : ∀ c ∈ cs, c = '0' ∨ c ∈ digits n) : c.isDigit = true := by
  rcases hcs c hc with rfl | hc
  · rfl
  · exact isDigit_of_mem_digits hc

/-- The positional text of a decimal stands for it. -/
theorem exists_positional (n : Nat) (k : Int) :
    ∃ p : Positional, positional n k = p.chars ∧ p.value = n * 10 ^ k := by
  unfold positional
  split
  · rename_i hk
    refine ⟨⟨digits n ++ List.replicate k.toNat '0', ['0'], by simp [Nat.toDigits_ne_nil, digits],
      fun c hc => isDigit_of_mem_padded (n := n) hc (by grind)⟩, rfl, ?_⟩
    have hsignificand : valueFrom 0 (digits n ++ List.replicate k.toNat '0' ++ ['0']) =
        n * 10 ^ (k.toNat + 1) := by
      rw [List.append_assoc, ← List.replicate_succ', valueFrom_append, valueFrom_digits,
        valueFrom_zeros]
    have hten : (10 : ℚ) ^ k.toNat = 10 ^ k := by
      rw [← zpow_natCast, Int.toNat_of_nonneg hk]
    simp only [Positional.value, Positional.significand, hsignificand, List.length_singleton]
    push_cast
    rw [pow_succ, hten]
    norm_num
    ring
  · rename_i hk
    let padded := List.replicate ((-k).toNat + 1 - (digits n).length) '0' ++ digits n
    have hlength : (-k).toNat < padded.length := by
      simp only [padded, List.length_append, List.length_replicate]
      omega
    refine ⟨⟨padded.take (padded.length - (-k).toNat), padded.drop (padded.length - (-k).toNat),
      ?_, ?_⟩, rfl, ?_⟩
    · rw [ne_eq, List.take_eq_nil_iff]
      rintro (hzero | hnil)
      · omega
      · simp [hnil] at hlength
    · rw [List.take_append_drop]
      exact fun c hc => isDigit_of_mem_padded (n := n) hc (by grind)
    · have hsignificand : valueFrom 0 padded = n := by
        rw [valueFrom_append, valueFrom_zeros, Nat.zero_mul, valueFrom_digits]
      have hplaces : -((padded.length - (padded.length - (-k).toNat) : Nat) : Int) = k := by omega
      simp only [Positional.value, Positional.significand, List.take_append_drop, hsignificand,
        List.length_drop, hplaces]

/-- A pointed text is read as the decimal it stands for. -/
theorem Positional.unsignedReal?_chars (p : Positional) (negative : Bool) :
    unsignedReal? negative p.chars =
      some ⟨negative, p.significand, -(p.fraction.length : Int)⟩ := by
  have hwhole : ∀ c ∈ p.whole, c.isDigit = true := fun c hc =>
    p.isDigit c (List.mem_append_left _ hc)
  have hfraction : ∀ c ∈ p.fraction, c.isDigit = true := fun c hc =>
    p.isDigit c (List.mem_append_right _ hc)
  have hpoint : ∀ c ∈ ('.' :: p.fraction).head?, c.isDigit = false := by
    rintro c ⟨⟩
    rfl
  have hspan : spanDigits p.chars = (p.whole, '.' :: p.fraction) := by
    rw [spanDigits, chars, takeWhile_append_eq hwhole hpoint, dropWhile_append_eq hwhole hpoint]
  have hrest : spanDigits p.fraction = (p.fraction, []) := by
    rw [spanDigits, List.takeWhile_eq_self_iff.mpr hfraction,
      List.dropWhile_eq_nil_iff.mpr hfraction]
  have hne : p.whole.isEmpty = false := List.isEmpty_eq_false_iff.mpr p.ne_nil
  simp [unsignedReal?, hspan, hrest, hne, exponent?, significand]

/-- A sign in front of an unsigned text. -/
def signed (negative : Bool) (body : List Char) : List Char :=
  (if negative then ['-'] else []) ++ body

/-- The sign is split off a text that has none of its own. -/
theorem spanSign_signed {negative : Bool} {body : List Char}
    (h : ∀ c ∈ body.head?, c ≠ '+' ∧ c ≠ '-') :
    spanSign (signed negative body) = (negative, body) := by
  cases negative with
  | true => rfl
  | false =>
    cases body with
    | nil => rfl
    | cons c cs =>
      have hc := h c rfl
      simp only [signed]
      unfold spanSign
      grind

/-- A digit has no capital form. -/
theorem toLower_of_isDigit {c : Char} (h : c.isDigit = true) : c.toLower = c := by
  have hbounds := toNat_of_isDigit h
  unfold Char.toLower
  rw [dif_neg]
  simp only [ge_iff_le, UInt32.le_iff_toNat_le, not_and_or, not_le]
  exact .inl (by change c.toNat < 65; omega)

/-- A text that begins with a digit is not the name of a float. -/
theorem lowered_ne {c : Char} {cs : List Char} (hc : c.isDigit = true) (name : List Char)
    (hname : name.head?.all (!·.isDigit) = true) :
    String.ofList ((c :: cs).map Char.toLower) ≠ String.ofList name := by
  intro heq
  have hlists := String.ofList_injective heq
  rw [List.map_cons, toLower_of_isDigit hc] at hlists
  subst hlists
  simp [hc] at hname

/-- A pointed text behind a sign is read as the float nearest to it. -/
theorem Positional.single?_signed (p : Positional) (negative : Bool) :
    single? (signed negative p.chars) =
      some (Scientific.toSingle ⟨negative, p.significand, -(p.fraction.length : Int)⟩) := by
  obtain ⟨c, cs, hchars, hdigit⟩ := p.exists_cons
  have hsign : spanSign (signed negative p.chars) = (negative, p.chars) := by
    refine spanSign_signed ?_
    rw [hchars]
    rintro d ⟨⟩
    constructor <;> rintro rfl <;> contradiction
  have hinf : String.ofList (p.chars.map Char.toLower) ≠ "inf" := by
    rw [hchars]
    exact lowered_ne hdigit ['i', 'n', 'f'] rfl
  have hinfinity : String.ofList (p.chars.map Char.toLower) ≠ "infinity" := by
    rw [hchars]
    exact lowered_ne hdigit "infinity".toList rfl
  have hnan : String.ofList (p.chars.map Char.toLower) ≠ "nan" := by
    rw [hchars]
    exact lowered_ne hdigit ['n', 'a', 'n'] rfl
  simp [single?, hsign, hinf, hinfinity, hnan, p.unsignedReal?_chars]

end Positional

section Reading

open Binary

variable {b : Binary} {bits : Nat}

/-- Whatever rounds to a float of single precision lies well inside the powers of ten that are
computed. -/
theorem ten_bounds_of_holds (hb : b.Represents bits) {x : ℚ} (h : b.Holds x) :
    (10 : ℚ) ^ (-46 : Int) < x ∧ x < 10 ^ (39 : Int) := by
  constructor
  · have hone : (1 : ℚ) ≤ b.significand := by exact_mod_cast hb.significand_pos
    have hunit := two_zpow_pos b.exponent
    calc (10 : ℚ) ^ (-46 : Int) < 1 / 2 * 2 ^ (-149 : Int) := by norm_num
      _ ≤ 1 / 2 * 2 ^ b.exponent := by
          gcongr
          · norm_num
          · exact hb.exponent_ge
      _ ≤ (b.significand - b.reach) * 2 ^ b.exponent := by
          gcongr
          linarith [b.reach_le]
      _ ≤ x := h.bounds.1
  · calc x < 2 ^ (b.exponent + 24) := h.lt_zpow hb
      _ ≤ 2 ^ (128 : Int) := by
          gcongr
          · norm_num
          · have := hb.exponent_le
            omega
      _ < 10 ^ (39 : Int) := by norm_num

/-- A decimal has its value between the powers of ten of its places. -/
theorem places_bounds {significand : Nat} (hpos : 0 < significand) (exponent : Int) :
    (10 : ℚ) ^ (exponent + (digits significand).length - 1) ≤ significand * 10 ^ exponent ∧
      (significand : ℚ) * 10 ^ exponent < 10 ^ (exponent + (digits significand).length) := by
  obtain ⟨hlow, hhigh⟩ := digits_bounds hpos
  have hlength : 0 < (digits significand).length := Nat.length_toDigits_pos
  have hten := ten_zpow_pos exponent
  constructor
  · rw [show exponent + ((digits significand).length : Int) - 1 =
        ((digits significand).length - 1 : Nat) + exponent by omega, zpow_add₀ (by norm_num)]
    gcongr
    exact_mod_cast hlow
  · rw [add_comm, zpow_add₀ (by norm_num)]
    gcongr
    exact_mod_cast hhigh

/-- A decimal that rounds to a float is read as it. -/
theorem magnitudeBits_eq (hb : b.Represents bits) {significand : Nat} {exponent : Int}
    (h : b.Holds (significand * 10 ^ exponent)) : magnitudeBits significand exponent = bits := by
  have hsignificand : 0 < significand := by
    rcases Nat.eq_zero_or_pos significand with rfl | hpos
    · simpa using h.pos hb
    · exact hpos
  obtain ⟨hlow, hhigh⟩ := places_bounds hsignificand exponent
  obtain ⟨hleast, hgreatest⟩ := ten_bounds_of_holds hb h
  have hfew : -46 < exponent + (digits significand).length :=
    (zpow_lt_zpow_iff_right₀ (by norm_num)).mp (hleast.trans hhigh)
  have hmany : exponent + (digits significand).length - 1 < 39 :=
    (zpow_lt_zpow_iff_right₀ (by norm_num)).mp (lt_of_le_of_lt hlow hgreatest)
  have hquotient : ((significand * Nat.pow 10 exponent.toNat : Nat) : ℚ) /
      (Nat.pow 10 (-exponent).toNat : Nat) = significand * 10 ^ exponent := by
    have hten : (10 : ℚ) ^ exponent.toNat = 10 ^ exponent * 10 ^ (-exponent).toNat :=
      pow_toNat (by norm_num) exponent
    have hne : (10 : ℚ) ^ (-exponent).toNat ≠ 0 := by positivity
    push_cast [Nat.pow_eq]
    rw [hten, ← mul_assoc, mul_div_cancel_right₀ _ hne]
  have hnone : ¬ (significand = 0 ∨ exponent + (digits significand).length < -45) := by omega
  have hinfinity : ¬ 40 < exponent + ((digits significand).length : Int) := by omega
  unfold magnitudeBits
  rw [if_neg hnone, if_neg hinfinity]
  refine hb.nearestBits_eq (Nat.mul_pos hsignificand (Nat.pow_pos (by decide)))
    (Nat.pow_pos (by decide)) ?_
  rwa [hquotient]

/-- The text of a number is that of infinity, or digits with a point that are read as the number
without its sign. -/
theorem ofBits_cases {bits : Nat} (h : bits % Nat.pow 2 31 ≤ infinityBits) :
    (bits % Nat.pow 2 31 = infinityBits ∧
      ofBits bits = signed (Nat.pow 2 31 ≤ bits) ['i', 'n', 'f']) ∨
    ∃ p : Positional, ofBits bits = signed (Nat.pow 2 31 ≤ bits) p.chars ∧
      magnitudeBits p.significand (-(p.fraction.length : Int)) = bits % Nat.pow 2 31 := by
  have hsign : (if Nat.pow 2 31 ≤ bits then ['-'] else []) =
      if decide (Nat.pow 2 31 ≤ bits) = true then ['-'] else [] := by simp
  simp only [ofBits, signed, ← hsign]
  rw [if_neg (show ¬ 0x7F800000 < bits % Nat.pow 2 31 from not_lt.mpr h)]
  rcases h.eq_or_lt with hinfinity | hfinite
  · exact .inl ⟨hinfinity, if_pos hinfinity⟩
  · rw [if_neg (show ¬ bits % Nat.pow 2 31 = 0x7F800000 from hfinite.ne)]
    refine .inr ?_
    split
    · rename_i hzero
      exact ⟨⟨['0'], ['0'], by simp, List.all_eq_true.mp (by decide)⟩, rfl, by rw [hzero]; rfl⟩
    · rename_i hne
      have hb := represents_ofBits (Nat.pos_of_ne_zero hne) hfinite
      obtain ⟨p, hchars, hvalue⟩ :=
        exists_positional (Binary.ofBits (bits % Nat.pow 2 31)).shortest.1
          (Binary.ofBits (bits % Nat.pow 2 31)).shortest.2
      refine ⟨p, by rw [← hchars], magnitudeBits_eq hb ?_⟩
      have hholds := hb.holds_shortest
      rwa [← hvalue] at hholds

/-- The magnitude of a float is its pattern below the sign bit. -/
theorem toNat_magnitude (x : Single) : x.magnitude.toNat = x.bits.toNat % Nat.pow 2 31 := by
  rw [Single.magnitude, UInt32.toNat_and]
  exact Nat.and_two_pow_sub_one_eq_mod x.bits.toNat 31

/-- A float is a number just if its magnitude lies up to infinity. -/
theorem isNaN_eq_false_iff {x : Single} :
    x.isNaN = false ↔ x.bits.toNat % Nat.pow 2 31 ≤ infinityBits := by
  rw [← toNat_magnitude, Single.isNaN, decide_eq_false_iff_not, UInt32.not_lt,
    UInt32.le_iff_toNat_le]
  rfl

/-- The sign and the magnitude make up the pattern. -/
theorem ofNat_signed (x : Single) :
    UInt32.ofNat (if Nat.pow 2 31 ≤ x.bits.toNat then x.bits.toNat % Nat.pow 2 31 + Nat.pow 2 31
      else x.bits.toNat % Nat.pow 2 31) = x.bits := by
  have hlt : x.bits.toNat < 2 ^ 32 := x.bits.toNat_lt
  have hwhole : (if Nat.pow 2 31 ≤ x.bits.toNat then x.bits.toNat % Nat.pow 2 31 + Nat.pow 2 31
      else x.bits.toNat % Nat.pow 2 31) = x.bits.toNat := by
    rw [show Nat.pow 2 31 = 2 ^ 31 from rfl]
    split <;> omega
  rw [hwhole, UInt32.ofNat_toNat]

/-- Every number is read back from its shortest text: of the floats, only the non-numbers are
not. -/
theorem single?_ofSingle {x : Single} (h : x.isNaN = false) : single? (ofSingle x) = some x := by
  rcases ofBits_cases (isNaN_eq_false_iff.mp h) with ⟨hinfinity, htext⟩ | ⟨p, htext, hbits⟩
  · have hbits := ofNat_signed x
    rw [hinfinity] at hbits
    rw [ofSingle, htext]
    by_cases hneg : Nat.pow 2 31 ≤ x.bits.toNat
    · rw [if_pos hneg] at hbits
      rw [decide_eq_true hneg]
      exact congrArg (fun bits => some (Single.mk bits)) hbits
    · rw [if_neg hneg] at hbits
      rw [decide_eq_false hneg]
      exact congrArg (fun bits => some (Single.mk bits)) hbits
  · rw [ofSingle, htext, p.single?_signed]
    simp only [Scientific.toSingle, hbits, decide_eq_true_eq, ofNat_signed]

end Reading

end Decimal

end Shipwright
