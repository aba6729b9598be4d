import Shipwright.Proofs.Decimal.Nearest

/-!
# The shortest decimal of a float

The search goes from coarse grids of decimals to finer ones and stops at the first with a point
that rounds to the float. It always stops: the finest grid is finer than a quarter of the
smallest unit, so the point just below the float rounds to it.
-/

namespace Shipwright.Decimal.Binary

variable {b : Binary} {bits : Nat}

section Grid

/-- The common scale of the points of a grid and of the bounds of a float. -/
def gridScale (b : Binary) (k : Int) : ℚ := 10 ^ (-k).toNat * 2 ^ (2 - b.exponent).toNat

theorem gridScale_pos (b : Binary) (k : Int) : 0 < b.gridScale k := by
  unfold gridScale
  positivity

/-- A step of the grid on the common scale. -/
theorem gridFactor_eq (b : Binary) (k : Int) : (b.gridFactor k : ℚ) = 10 ^ k * b.gridScale k := by
  have hten : (10 : ℚ) ^ k.toNat = 10 ^ k * 10 ^ (-k).toNat := pow_toNat (by norm_num) k
  simp only [gridFactor, gridScale, Nat.pow_eq]
  push_cast
  rw [hten, mul_assoc]

/-- A quarter of a unit on the common scale. -/
theorem unitFactor_eq (b : Binary) (k : Int) :
    (b.unitFactor k : ℚ) = 2 ^ b.exponent / 4 * b.gridScale k := by
  have htwo : (2 : ℚ) ^ (b.exponent - 2).toNat =
      2 ^ b.exponent / 4 * 2 ^ (2 - b.exponent).toNat := by
    rw [pow_toNat (by norm_num), zpow_sub₀ (by norm_num), neg_sub]
    norm_num
  simp only [unitFactor, gridScale, Nat.pow_eq]
  push_cast
  rw [htwo]
  ring

/-- The test for a point of a grid is that the real it stands for rounds to the float. -/
theorem covers_iff (hb : 0 < b.significand) {k : Int} {n : Nat} :
    b.covers k n = true ↔ b.Holds (n * 10 ^ k) := by
  have hscale := b.gridScale_pos k
  have hpoint : ((n * b.gridFactor k : Nat) : ℚ) = n * 10 ^ k * b.gridScale k := by
    push_cast
    rw [gridFactor_eq]
    ring
  have hlow : (((4 * b.significand - if b.narrowBelow then 1 else 2) * b.unitFactor k : Nat) : ℚ) =
      (b.significand - b.reach) * 2 ^ b.exponent * b.gridScale k := by
    have hle : (if b.narrowBelow then 1 else 2) ≤ 4 * b.significand := by split <;> omega
    push_cast [hle, unitFactor_eq, reach]
    split <;> ring
  have hhigh : (((4 * b.significand + 2) * b.unitFactor k : Nat) : ℚ) =
      (b.significand + 1 / 2) * 2 ^ b.exponent * b.gridScale k := by
    push_cast [unitFactor_eq]
    ring
  have hcast_le : ∀ m n : Nat, m ≤ n ↔ (m : ℚ) ≤ n := fun _ _ => Nat.cast_le.symm
  have hcast_lt : ∀ m n : Nat, m < n ↔ (m : ℚ) < n := fun _ _ => Nat.cast_lt.symm
  simp only [covers, Holds]
  split
  · simp only [Bool.and_eq_true, decide_eq_true_eq, hcast_le, hpoint, hlow, hhigh,
      mul_le_mul_iff_left₀ hscale]
  · simp only [Bool.and_eq_true, decide_eq_true_eq, hcast_lt, hpoint, hlow, hhigh,
      mul_lt_mul_iff_left₀ hscale]

/-- Among the points of a grid, the float lies between the one it is cut off to and the next. -/
theorem gridPoint_bounds (b : Binary) (k : Int) :
    let below := 4 * b.significand * b.unitFactor k / b.gridFactor k
    (below : ℚ) * 10 ^ k ≤ b.significand * 2 ^ b.exponent ∧
      b.significand * 2 ^ b.exponent < ((below : ℚ) + 1) * 10 ^ k := by
  intro below
  have hscale := b.gridScale_pos k
  have hstep : 0 < b.gridFactor k := by
    have : (0 : ℚ) < b.gridFactor k := by
      rw [gridFactor_eq]
      exact mul_pos (ten_zpow_pos k) hscale
    exact_mod_cast this
  have hle : below * b.gridFactor k ≤ 4 * b.significand * b.unitFactor k :=
    Nat.div_mul_le_self _ _
  have hlt : 4 * b.significand * b.unitFactor k < (below + 1) * b.gridFactor k :=
    (Nat.div_lt_iff_lt_mul hstep).mp (Nat.lt_succ_self below)
  have hle' : ((below * b.gridFactor k : Nat) : ℚ) ≤ (4 * b.significand * b.unitFactor k : Nat) :=
    Nat.cast_le.mpr hle
  have hlt' : ((4 * b.significand * b.unitFactor k : Nat) : ℚ) <
      ((below + 1) * b.gridFactor k : Nat) := Nat.cast_lt.mpr hlt
  push_cast [gridFactor_eq, unitFactor_eq] at hle' hlt'
  constructor
  · refine le_of_mul_le_mul_right ?_ hscale
    linarith
  · refine lt_of_mul_lt_mul_right ?_ hscale.le
    linarith

end Grid

section Search

/-- The chosen point of a grid rounds to the float. -/
theorem covers_of_gridPoint? {k : Int} {n : Nat} (h : b.gridPoint? k = some n) :
    b.covers k n = true := by
  simp only [gridPoint?] at h
  split at h
  · rename_i hbelow habove
    cases h
    split <;> assumption
  all_goals cases h
  all_goals assumption

/-- Whatever the search finds rounds to the float. -/
theorem covers_of_searchGrid {count n : Nat} {k j : Int} (h : b.searchGrid count k = some (n, j)) :
    b.covers j n = true := by
  induction count generalizing k with
  | zero => cases h
  | succ count ih =>
    simp only [searchGrid] at h
    split at h
    · cases h
      exact covers_of_gridPoint? ‹_›
    · exact ih h

/-- The search finds a point if one of the grids it looks through has one. -/
theorem isSome_searchGrid {count : Nat} {k j : Int} (hpoint : (b.gridPoint? j).isSome = true)
    (hfirst : j ≤ k) (hlast : k < j + count) : (b.searchGrid count k).isSome = true := by
  induction count generalizing k with
  | zero => omega
  | succ count ih =>
    simp only [searchGrid]
    split
    · rfl
    · rename_i hnone
      have hne : j ≠ k := by
        rintro rfl
        simp [hnone] at hpoint
      exact ih (by omega) (by push_cast at hlast; omega)

/-- The finest grid is finer than what lies between a float and its lower bound. -/
theorem Represents.finest_lt (hb : b.Represents bits) :
    (10 : ℚ) ^ (-46 : Int) < b.reach * 2 ^ b.exponent := by
  have hquarter : (10 : ℚ) ^ (-46 : Int) < 1 / 4 * 2 ^ (-148 : Int) := by norm_num
  unfold reach
  split
  · rename_i hnarrow
    have hexp : -148 ≤ b.exponent := by
      have := (hb.narrow.mp hnarrow).2
      omega
    calc (10 : ℚ) ^ (-46 : Int) < 1 / 4 * 2 ^ (-148 : Int) := hquarter
      _ ≤ 1 / 4 * 2 ^ b.exponent := by
          gcongr
          norm_num
  · have hexp := hb.exponent_ge
    calc (10 : ℚ) ^ (-46 : Int) < 1 / 4 * 2 ^ (-148 : Int) := hquarter
      _ = 1 / 2 * 2 ^ (-149 : Int) := by norm_num
      _ ≤ 1 / 2 * 2 ^ b.exponent := by
          gcongr
          norm_num

/-- A real a little below a float rounds to it. -/
theorem holds_of_le {x : ℚ} (hlow : (b.significand - b.reach) * 2 ^ b.exponent < x)
    (hhigh : x ≤ b.significand * 2 ^ b.exponent) : b.Holds x := by
  have hlt : x < (b.significand + 1 / 2) * 2 ^ b.exponent := by
    have := two_zpow_pos b.exponent
    linarith
  unfold Holds
  split
  · exact ⟨hlow.le, hlt.le⟩
  · exact ⟨hlow, hlt⟩

/-- The finest grid has a point that rounds to the float. -/
theorem Represents.isSome_finest (hb : b.Represents bits) :
    (b.gridPoint? (-46)).isSome = true := by
  obtain ⟨hle, hlt⟩ := b.gridPoint_bounds (-46)
  have hfine := hb.finest_lt
  have hbelow : b.covers (-46) (4 * b.significand * b.unitFactor (-46) / b.gridFactor (-46)) =
      true := by
    refine (covers_iff hb.significand_pos).mpr (holds_of_le ?_ hle)
    generalize (10 : ℚ) ^ (-46 : Int) = step at hlt hfine ⊢
    linarith
  simp only [gridPoint?, hbelow]
  split <;> simp_all

/-- The shortest decimal of a positive finite float rounds to it. -/
theorem Represents.holds_shortest (hb : b.Represents bits) :
    b.Holds (b.shortest.1 * 10 ^ b.shortest.2) := by
  have hfound : (b.searchGrid 86 39).isSome = true :=
    isSome_searchGrid hb.isSome_finest (by decide) (by decide)
  obtain ⟨⟨n, k⟩, hsearch⟩ := Option.isSome_iff_exists.mp hfound
  rw [show b.shortest = (n, k) by simp [shortest, hsearch]]
  exact (covers_iff hb.significand_pos).mp (covers_of_searchGrid hsearch)

end Search

end Shipwright.Decimal.Binary
