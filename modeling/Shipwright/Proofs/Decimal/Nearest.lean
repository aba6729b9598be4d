import Shipwright.Decimal.Nearest
import Shipwright.Decimal.Shortest
import Mathlib.Data.Int.Log
import Mathlib.Data.Rat.Floor
import Mathlib.Tactic.FieldSimp
import Mathlib.Tactic.Linarith
import Mathlib.Tactic.Positivity
import Mathlib.Tactic.Ring

/-!
# What is nearest to a float

The reals that round to a float lie between two bounds: half a unit to either side of it, and
a quarter below a power of two. Both directions of the text are measured by this interval, in
rational arithmetic: the search for digits asks whether a point of a grid lies in it, and
whatever lies in it is read as the float.
-/

namespace Shipwright.Decimal

section Powers

/-- A power is a quotient of powers of which at least one is 1. -/
theorem pow_toNat {a : ℚ} (ha : a ≠ 0) (k : Int) : a ^ k.toNat = a ^ k * a ^ (-k).toNat := by
  rw [← zpow_natCast, ← zpow_natCast, ← zpow_add₀ ha]
  congr 1
  omega

theorem two_zpow_pos (k : Int) : (0 : ℚ) < 2 ^ k := zpow_pos (by norm_num) k

theorem ten_zpow_pos (k : Int) : (0 : ℚ) < 10 ^ k := zpow_pos (by norm_num) k

/-- A quotient is scaled by a power of two in its numerator or in its denominator. -/
theorem div_two_zpow (num den : Nat) (q : Int) :
    ((num * Nat.pow 2 (-q).toNat : Nat) : ℚ) / (den * Nat.pow 2 q.toNat : Nat) =
      (num : ℚ) / den / 2 ^ q := by
  have hpow : (2 : ℚ) ^ q.toNat = 2 ^ q * 2 ^ (-q).toNat := pow_toNat (by norm_num) q
  have hpos : (2 : ℚ) ^ (-q).toNat ≠ 0 := by positivity
  push_cast [Nat.pow_eq]
  rw [hpow, div_div, ← mul_assoc, mul_div_mul_right _ _ hpos]

/-- Powers of two are compared with a quotient by scaling its denominator or its numerator. -/
theorem scaled_le_iff {num den : Nat} (hden : 0 < den) (e : Int) :
    den * Nat.pow 2 e.toNat ≤ num * Nat.pow 2 (-e).toNat ↔ (2 : ℚ) ^ e ≤ (num : ℚ) / den := by
  have hdenominator : (0 : ℚ) < (den * Nat.pow 2 e.toNat : Nat) := by
    have : 0 < Nat.pow 2 e.toNat := Nat.pow_pos (by decide)
    exact_mod_cast Nat.mul_pos hden this
  have hscaled := div_two_zpow num den e
  rw [← one_le_div (two_zpow_pos e), ← hscaled, one_le_div hdenominator, Nat.cast_le]

/-- A natural lies between two neighbouring powers of two. -/
theorem log2_bounds {n : Nat} (hn : 0 < n) :
    (2 : ℚ) ^ (n.log2 : Int) ≤ n ∧ (n : ℚ) < 2 ^ ((n.log2 : Int) + 1) := by
  have hlow : 2 ^ n.log2 ≤ n := Nat.log2_self_le hn.ne'
  have hhigh : n < 2 ^ (n.log2 + 1) := Nat.lt_log2_self
  exact ⟨by exact_mod_cast hlow, by exact_mod_cast hhigh⟩

/-- The logarithm is the largest power of two below a quotient. -/
theorem floorLog2_eq_log {num den : Nat} (hnum : 0 < num) (hden : 0 < den) :
    floorLog2 num den = Int.log 2 ((num : ℚ) / den) := by
  have hx : (0 : ℚ) < (num : ℚ) / den := by positivity
  have hle : ∀ e : Int, (2 : ℚ) ^ e ≤ (num : ℚ) / den ↔ e ≤ Int.log 2 ((num : ℚ) / den) :=
    fun e => by exact_mod_cast Int.zpow_le_iff_le_log (b := 2) (by decide) hx
  have hnum_bounds := log2_bounds hnum
  have hden_bounds := log2_bounds hden
  have hlow : (num.log2 : Int) - den.log2 - 1 ≤ Int.log 2 ((num : ℚ) / den) := by
    rw [← hle, le_div_iff₀ (by positivity)]
    calc (2 : ℚ) ^ ((num.log2 : Int) - den.log2 - 1) * den
        ≤ 2 ^ ((num.log2 : Int) - den.log2 - 1) * 2 ^ ((den.log2 : Int) + 1) :=
          mul_le_mul_of_nonneg_left hden_bounds.2.le (two_zpow_pos _).le
      _ = 2 ^ (num.log2 : Int) := by
          rw [← zpow_add₀ (by norm_num)]
          congr 1
          omega
      _ ≤ num := hnum_bounds.1
  have hhigh : ¬ (num.log2 : Int) - den.log2 + 1 ≤ Int.log 2 ((num : ℚ) / den) := by
    rw [← hle, not_le, div_lt_iff₀ (by positivity)]
    calc (num : ℚ) < 2 ^ ((num.log2 : Int) + 1) := hnum_bounds.2
      _ = 2 ^ ((num.log2 : Int) - den.log2 + 1) * 2 ^ (den.log2 : Int) := by
          rw [← zpow_add₀ (by norm_num)]
          congr 1
          omega
      _ ≤ 2 ^ ((num.log2 : Int) - den.log2 + 1) * den :=
          mul_le_mul_of_nonneg_left hden_bounds.1 (two_zpow_pos _).le
  simp only [floorLog2, scaled_le_iff hden, hle]
  split <;> omega

end Powers

section Rounding

/-- Whether a real is rounded to a natural: it is nearer to no other, and an odd one is not taken
from half way. -/
def RoundsTo (x : ℚ) (r : Nat) : Prop :=
  if r % 2 = 0 then (r : ℚ) - 1 / 2 ≤ x ∧ x ≤ r + 1 / 2 else (r : ℚ) - 1 / 2 < x ∧ x < r + 1 / 2

/-- A quotient lies within half of its rounded value. -/
theorem roundDiv_eq_of_bounds {num den r : Nat} (hden : 0 < den)
    (hlow : 2 * (r * den) ≤ 2 * num + den) (hhigh : 2 * num ≤ 2 * (r * den) + den)
    (hodd : r % 2 = 1 → 2 * (r * den) < 2 * num + den ∧ 2 * num < 2 * (r * den) + den) :
    roundDiv num den = r := by
  have hsplit : num / den * den + num % den = num := Nat.div_add_mod' num den
  have hrest : num % den < den := Nat.mod_lt num hden
  have habove : ¬ num / den + 2 ≤ r := by
    intro h
    have hmul := Nat.mul_le_mul_right den h
    rw [Nat.add_mul] at hmul
    omega
  have hbelow : ¬ r + 1 ≤ num / den := by
    intro h
    have hmul := Nat.mul_le_mul_right den h
    rw [Nat.add_mul] at hmul
    omega
  rcases (by omega : r = num / den ∨ r = num / den + 1) with rfl | rfl
  · simp only [roundDiv]
    split_ifs <;> omega
  · rw [Nat.add_mul] at hlow hhigh hodd
    simp only [roundDiv]
    split_ifs <;> omega

/-- A quotient is rounded to the nearest natural, from half way to the even one. -/
theorem roundDiv_eq {num den r : Nat} (hden : 0 < den) (h : RoundsTo ((num : ℚ) / den) r) :
    roundDiv num den = r := by
  have hpos : (0 : ℚ) < den := by exact_mod_cast hden
  unfold RoundsTo at h
  split at h
  · rename_i heven
    rw [le_div_iff₀ hpos, div_le_iff₀ hpos] at h
    have hlow : 2 * (r * den) ≤ 2 * num + den := by
      have : (2 * (r * den) : ℚ) ≤ 2 * num + den := by linarith [h.1]
      exact_mod_cast this
    have hhigh : 2 * num ≤ 2 * (r * den) + den := by
      have : (2 * num : ℚ) ≤ 2 * (r * den) + den := by linarith [h.2]
      exact_mod_cast this
    exact roundDiv_eq_of_bounds hden hlow hhigh fun hodd => by omega
  · rw [lt_div_iff₀ hpos, div_lt_iff₀ hpos] at h
    have hlow : 2 * (r * den) < 2 * num + den := by
      have : (2 * (r * den) : ℚ) < 2 * num + den := by linarith [h.1]
      exact_mod_cast this
    have hhigh : 2 * num < 2 * (r * den) + den := by
      have : (2 * num : ℚ) < 2 * (r * den) + den := by linarith [h.2]
      exact_mod_cast this
    exact roundDiv_eq_of_bounds hden hlow.le hhigh.le fun _ => ⟨hlow, hhigh⟩

/-- The nearest float counts the units of the rounded quotient from the least exponent on. -/
theorem nearestBits_eq {num den r : Nat} {q : Int} (hnum : 0 < num) (hden : 0 < den)
    (hq : max (Int.log 2 ((num : ℚ) / den) - 23) (-149) = q)
    (hr : RoundsTo ((num : ℚ) / den / 2 ^ q) r) :
    nearestBits num den = min ((q + 149).toNat * Nat.pow 2 23 + r) infinityBits := by
  have hscaled : 0 < den * Nat.pow 2 q.toNat := Nat.mul_pos hden (Nat.pow_pos (by decide))
  simp only [nearestBits, floorLog2_eq_log hnum hden, hq]
  rw [← div_two_zpow] at hr
  rw [roundDiv_eq hscaled hr]

end Rounding

namespace Binary

/-- How a positive finite float stands to its bit pattern: the significand counts units from the
least exponent on, and only the first of a power of two above the least one is narrow below. -/
structure Represents (b : Binary) (bits : Nat) : Prop where
  /-- The float is not zero. -/
  significand_pos : 0 < b.significand
  /-- The significand has 24 bits. -/
  significand_lt : b.significand < 2 ^ 24
  /-- No unit is smaller than the least one. -/
  exponent_ge : -149 ≤ b.exponent
  /-- The largest float is finite. -/
  exponent_le : b.exponent ≤ 104
  /-- Only the least unit is counted by fewer bits. -/
  normal : 2 ^ 23 ≤ b.significand ∨ b.exponent = -149
  /-- The pattern counts the units of all lower exponents before those of this one. -/
  bits_eq : (b.exponent + 149).toNat * 2 ^ 23 + b.significand = bits
  /-- Where the float below is only half a unit away. -/
  narrow : b.narrowBelow = true ↔ b.significand = 2 ^ 23 ∧ -149 < b.exponent

/-- The pattern of every positive finite float. -/
theorem represents_ofBits {bits : Nat} (hpos : 0 < bits) (hfinite : bits < infinityBits) :
    (ofBits bits).Represents bits := by
  have hbits : bits / Nat.pow 2 23 * 2 ^ 23 + bits % Nat.pow 2 23 = bits :=
    Nat.div_add_mod' bits (2 ^ 23)
  have hrest : bits % Nat.pow 2 23 < 2 ^ 23 := Nat.mod_lt bits (by decide)
  have hfield : bits / Nat.pow 2 23 < 255 := Nat.div_lt_of_lt_mul hfinite
  simp only [ofBits]
  generalize bits / Nat.pow 2 23 = field at hbits hfield ⊢
  generalize bits % Nat.pow 2 23 = fraction at hbits hrest ⊢
  split
  · constructor <;> grind
  · have hpow : Nat.pow 2 23 = 8388608 := rfl
    constructor <;> grind

/-- How far below the float the reals still round to it, in units. -/
def reach (b : Binary) : ℚ := if b.narrowBelow then 1 / 4 else 1 / 2

/-- Whether a real lies between the bounds of a float; the bounds themselves belong to an even
significand. -/
def Holds (b : Binary) (x : ℚ) : Prop :=
  if b.significand % 2 = 0 then
    (b.significand - b.reach) * 2 ^ b.exponent ≤ x ∧ x ≤ (b.significand + 1 / 2) * 2 ^ b.exponent
  else
    (b.significand - b.reach) * 2 ^ b.exponent < x ∧ x < (b.significand + 1 / 2) * 2 ^ b.exponent

variable {b : Binary} {bits : Nat} {x : ℚ}

theorem reach_le (b : Binary) : b.reach ≤ 1 / 2 := by
  unfold reach
  split <;> norm_num

/-- A real that rounds to a float lies between its bounds. -/
theorem Holds.bounds (h : b.Holds x) :
    (b.significand - b.reach) * 2 ^ b.exponent ≤ x ∧
      x ≤ (b.significand + 1 / 2) * 2 ^ b.exponent := by
  unfold Holds at h
  split at h
  · exact h
  · exact ⟨h.1.le, h.2.le⟩

/-- In units of the float, a real that rounds to it rounds to the significand. -/
theorem Holds.roundsTo (h : b.Holds x) : RoundsTo (x / 2 ^ b.exponent) b.significand := by
  have hunit := two_zpow_pos b.exponent
  have hreach := b.reach_le
  unfold Holds at h
  unfold RoundsTo
  split at h
  · rename_i heven
    rw [if_pos heven, le_div_iff₀ hunit, div_le_iff₀ hunit]
    exact ⟨le_trans (by gcongr) h.1, h.2⟩
  · rename_i hodd
    rw [if_neg hodd, lt_div_iff₀ hunit, div_lt_iff₀ hunit]
    exact ⟨lt_of_le_of_lt (by gcongr) h.1, h.2⟩

/-- Whatever rounds to a positive float is positive. -/
theorem Holds.pos (h : b.Holds x) (hb : b.Represents bits) : 0 < x := by
  have hone : (1 : ℚ) ≤ b.significand := by exact_mod_cast hb.significand_pos
  have hlow : 0 < (b.significand - b.reach) * 2 ^ b.exponent :=
    mul_pos (by linarith [b.reach_le]) (two_zpow_pos _)
  exact lt_of_lt_of_le hlow h.bounds.1

/-- Whatever rounds to a float lies below the power of two behind the longest significand. -/
theorem Holds.lt_zpow (h : b.Holds x) (hb : b.Represents bits) : x < 2 ^ (b.exponent + 24) := by
  have hlong : (b.significand : ℚ) + 1 ≤ 2 ^ (24 : Int) := by exact_mod_cast hb.significand_lt
  calc x ≤ (b.significand + 1 / 2) * 2 ^ b.exponent := h.bounds.2
    _ < 2 ^ (24 : Int) * 2 ^ b.exponent := by
        have hunit := two_zpow_pos b.exponent
        gcongr
        linarith
    _ = 2 ^ (b.exponent + 24) := by rw [← zpow_add₀ (by norm_num), add_comm]

/-- The pattern of a finite float lies below that of infinity. -/
theorem Represents.bits_lt (hb : b.Represents bits) : bits < infinityBits := by
  have hinfinity : infinityBits = 255 * 2 ^ 23 := by decide
  have := hb.exponent_ge
  have := hb.exponent_le
  have := hb.significand_lt
  have := hb.bits_eq
  omega

/-- A quotient that rounds to a float is read as it while the units of the float are the ones it
is rounded to: it reaches the power of two that the significand begins with, or there are no
smaller units. -/
theorem Represents.nearestBits_of_le {num den : Nat} (hb : b.Represents bits) (hnum : 0 < num)
    (hden : 0 < den) (h : b.Holds ((num : ℚ) / den))
    (hunit : (2 : ℚ) ^ (b.exponent + 23) ≤ (num : ℚ) / den ∨ b.exponent = -149) :
    nearestBits num den = bits := by
  have hpos := h.pos hb
  have hlt : Int.log 2 ((num : ℚ) / den) < b.exponent + 24 :=
    (Int.lt_zpow_iff_log_lt (b := 2) (by decide) hpos).mp (by exact_mod_cast h.lt_zpow hb)
  have hle : b.exponent + 23 ≤ Int.log 2 ((num : ℚ) / den) ∨ b.exponent = -149 :=
    hunit.imp_left fun hx =>
      (Int.zpow_le_iff_le_log (b := 2) (by decide) hpos).mp (by exact_mod_cast hx)
  have hq : max (Int.log 2 ((num : ℚ) / den) - 23) (-149) = b.exponent := by
    have := hb.exponent_ge
    omega
  have hbits : (b.exponent + 149).toNat * Nat.pow 2 23 + b.significand = bits := hb.bits_eq
  rw [nearestBits_eq hnum hden hq h.roundsTo, hbits]
  exact min_eq_left hb.bits_lt.le

/-- A float that a real below its first power of two rounds to begins with that power. -/
theorem Represents.significand_of_lt (hb : b.Represents bits) (h : b.Holds x)
    (hbelow : x < 2 ^ (b.exponent + 23)) (hexp : -149 < b.exponent) :
    b.significand = 2 ^ 23 := by
  have hlt : (b.significand : ℚ) - b.reach < 2 ^ 23 := by
    rw [zpow_add₀ (by norm_num), mul_comm] at hbelow
    refine lt_of_mul_lt_mul_right (lt_of_le_of_lt h.bounds.1 ?_) (two_zpow_pos b.exponent).le
    exact_mod_cast hbelow
  have hle : b.significand < 2 ^ 23 + 1 := by
    have : (b.significand : ℚ) < 2 ^ 23 + 1 := by linarith [b.reach_le]
    exact_mod_cast this
  have := hb.normal
  omega

/-- A quotient just below a power of two that rounds to it is rounded to the smaller units of the
floats below, and up to the power again. -/
theorem Represents.nearestBits_of_lt {num den : Nat} (hb : b.Represents bits) (hnum : 0 < num)
    (hden : 0 < den) (h : b.Holds ((num : ℚ) / den))
    (hbelow : (num : ℚ) / den < 2 ^ (b.exponent + 23)) (hexp : -149 < b.exponent) :
    nearestBits num den = bits := by
  have hsignificand := hb.significand_of_lt h hbelow hexp
  have hreach : b.reach = 1 / 4 := if_pos (hb.narrow.mpr ⟨hsignificand, hexp⟩)
  have hpower : (2 : ℚ) ^ b.exponent = 2 * 2 ^ (b.exponent - 1) := by
    rw [← zpow_one_add₀ (by norm_num)]
    congr 1
    omega
  have hhalf := two_zpow_pos (b.exponent - 1)
  have hlow := h.bounds.1
  rw [hsignificand, hreach] at hlow
  push_cast at hlow
  have hlog : Int.log 2 ((num : ℚ) / den) = b.exponent + 22 := by
    have hpos := h.pos hb
    have hge : (2 : ℚ) ^ (b.exponent + 22) ≤ (num : ℚ) / den := by
      rw [zpow_add₀ (by norm_num)]
      norm_num
      linarith
    have := (Int.zpow_le_iff_le_log (b := 2) (by decide) hpos).mp (by exact_mod_cast hge)
    have := (Int.lt_zpow_iff_log_lt (b := 2) (by decide) hpos).mp (by exact_mod_cast hbelow)
    omega
  rw [zpow_add₀ (by norm_num)] at hbelow
  push_cast at hbelow
  have hq : max (Int.log 2 ((num : ℚ) / den) - 23) (-149) = b.exponent - 1 := by omega
  have hr : RoundsTo ((num : ℚ) / den / 2 ^ (b.exponent - 1)) (2 ^ 24) := by
    rw [RoundsTo, if_pos (by decide), le_div_iff₀ hhalf, div_le_iff₀ hhalf]
    push_cast
    constructor <;> nlinarith
  have hbits : (b.exponent - 1 + 149).toNat * Nat.pow 2 23 + 2 ^ 24 = bits := by
    have hunits := hb.bits_eq
    rw [hsignificand] at hunits
    have hstep : (b.exponent + 149).toNat = (b.exponent - 1 + 149).toNat + 1 := by omega
    rw [← hunits, hstep, Nat.pow_eq]
    ring
  rw [nearestBits_eq hnum hden hq hr, hbits]
  exact min_eq_left hb.bits_lt.le

/-- A quotient that rounds to a positive finite float is read as that float. -/
theorem Represents.nearestBits_eq {num den : Nat} (hb : b.Represents bits) (hnum : 0 < num)
    (hden : 0 < den) (h : b.Holds ((num : ℚ) / den)) : nearestBits num den = bits := by
  rcases le_or_gt ((2 : ℚ) ^ (b.exponent + 23)) ((num : ℚ) / den) with hreached | hbelow
  · exact hb.nearestBits_of_le hnum hden h (.inl hreached)
  · rcases hb.exponent_ge.eq_or_lt with hleast | hexp
    · exact hb.nearestBits_of_le hnum hden h (.inr hleast.symm)
    · exact hb.nearestBits_of_lt hnum hden h hbelow hexp

end Binary

end Shipwright.Decimal
