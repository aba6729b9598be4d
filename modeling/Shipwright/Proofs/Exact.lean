import Mathlib.Algebra.Order.Field.Rat
import Mathlib.Tactic.NormNum
import Shipwright.Scalar

/-!
# Exact arithmetic

Rules that are stated over any scalar can be read over the rational numbers, where no operation
rounds and the comparisons of scalars are those of numbers.
-/

namespace Shipwright

/-- Rational numbers as scalars, whose arithmetic is exact. -/
@[reducible] def Scalar.rational : Scalar ℚ where
  ofCount := Nat.cast
  decideLT := inferInstance

attribute [local instance] Scalar.rational

theorem Scalar.zero_literal : (0.0 : ℚ) = 0 := by norm_num

theorem Scalar.one_literal : (1.0 : ℚ) = 1 := by norm_num

theorem Scalar.half_literal : (0.5 : ℚ) = 1 / 2 := by norm_num

/-- In exact arithmetic one number is at most another just if it is less or equal. -/
theorem Scalar.atMost_iff (a b : ℚ) : Scalar.atMost a b = true ↔ a ≤ b := by
  simp [Scalar.atMost, le_iff_lt_or_eq]

/-- In exact arithmetic the larger of two numbers is their maximum. -/
theorem Scalar.larger_eq_max (a b : ℚ) : Scalar.larger a b = max a b := by
  simp [Scalar.larger, Scalar.atMost_iff, max_def]

end Shipwright
