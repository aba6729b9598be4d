import Mathlib
import Shipwright.Proofs.Decimal.Text

/-!
# The order of single precision

The machine compares floats as what they stand for: a signed number, an infinity or no number at
all. Of two numbers one is less than the other or equal to it; a non-number is neither less than
anything nor equal to it, itself included. A number that is clamped therefore lies between the
bounds, while a non-number passes both of them, and all sums and products that it enters are
non-numbers as well.
-/

namespace Shipwright

namespace Single

open Float.Model

/-- A comparison is undecided just where there is a non-number. -/
theorem compare_eq_none_iff {a b : UnpackedFloat} :
    a.compare b = none ↔ a = .notANumber ∨ b = .notANumber := by
  rcases a with ⟨_ | _⟩ | _ | _ | ⟨_ | _, _, _, _⟩ <;>
    rcases b with ⟨_ | _⟩ | _ | _ | ⟨_ | _, _, _, _⟩ <;> simp [UnpackedFloat.compare]

/-- Exchanging the sides turns a comparison of finite numbers round. -/
theorem compare_then_swap (e f : Int) (m n : Nat) :
    (compare f e).then (compare n m) = ((compare e f).then (compare m n)).swap := by
  rw [Ordering.swap_then, ← Std.OrientedCmp.eq_swap, ← Std.OrientedCmp.eq_swap]

/-- Exchanging the sides turns a comparison round. -/
theorem compare_swap (a b : UnpackedFloat) : b.compare a = (a.compare b).map Ordering.swap := by
  cases a with
  | notANumber => cases b <;> rfl
  | infinity s =>
    cases b with
    | infinity t => cases s <;> cases t <;> rfl
    | _ => cases s <;> rfl
  | zero s =>
    cases b with
    | infinity t => cases t <;> rfl
    | finite t n f hn => cases t <;> rfl
    | _ => rfl
  | finite s m e hm =>
    cases b with
    | notANumber => rfl
    | infinity t => cases t <;> rfl
    | zero t => cases s <;> rfl
    | finite t n f hn =>
      cases s with
      | negative =>
        cases t with
        | negative => exact congrArg (some ·.swap) (compare_then_swap e f m n)
        | positive => rfl
      | positive =>
        cases t with
        | negative => rfl
        | positive => exact congrArg some (compare_then_swap e f m n)

/-- What a float stands for. -/
def unpacked (x : Single) : UnpackedFloat := .unpack .binary32 x.bits.toBitVec

/-- A pattern stands for no number just if all its exponent bits and some of its fraction are
set. -/
theorem unpack_eq_notANumber_iff {spec : Format} (b : BitVec spec.numBits) :
    UnpackedFloat.unpack spec b = .notANumber ↔ UnpackedFloat.isNaNBits b = true := by
  rw [UnpackedFloat.unpack.eq_1, UnpackedFloat.isNaNBits, decide_eq_true_iff]
  split
  · rename_i hexponent
    simp [hexponent]
  · rename_i hexponent
    split
    · split <;> simp [hexponent]
    · simp [hexponent]

/-- The machine's float stands for the same. -/
theorem unpack_toFloat32 (x : Single) : x.toFloat32.toModel.unpack = x.unpacked := by
  have hround : x.toFloat32.toModel.unpack =
      .unpack .binary32 (UnpackedFloat.pack .binary32 x.unpacked) := rfl
  rw [hround, unpacked, UnpackedFloat.pack_unpack]
  split
  · rename_i hnan
    rw [UnpackedFloat.unpack_packedNaN, (unpack_eq_notANumber_iff _).mpr hnan]
  · rfl

/-- A float is no number just if its magnitude is above that of infinity. -/
theorem isNaN_iff {x : Single} : x.isNaN = true ↔ 0x7F800000 < x.bits.toNat % 2 ^ 31 := by
  rw [← Bool.not_eq_false, Decimal.isNaN_eq_false_iff, Nat.not_le]
  rfl

/-- A float that is no number stands for none. -/
theorem unpacked_eq_notANumber_iff {x : Single} : x.unpacked = .notANumber ↔ x.isNaN = true := by
  have hexponent : (@UnpackedFloat.unpackExponent .binary32 x.bits.toBitVec).toNat =
      x.bits.toNat / 2 ^ 23 % 2 ^ 8 := by
    rw [UnpackedFloat.unpackExponent_def, BitVec.extractLsb'_toNat, Nat.shiftRight_eq_div_pow]
    rfl
  have hfraction : (@UnpackedFloat.unpackMantissa .binary32 x.bits.toBitVec).toNat =
      x.bits.toNat % 2 ^ 23 := by
    rw [UnpackedFloat.unpackMantissa_def, BitVec.extractLsb'_toNat, Nat.shiftRight_zero]
    rfl
  rw [unpacked, unpack_eq_notANumber_iff, UnpackedFloat.isNaNBits, decide_eq_true_iff, isNaN_iff,
    ne_eq, ← BitVec.toNat_inj, ← BitVec.toNat_inj, hexponent, hfraction]
  have hall : (-1#8 : BitVec 8).toNat = 2 ^ 8 - 1 := rfl
  have hnone : (0#23 : BitVec 23).toNat = 0 := rfl
  rw [hall, hnone]
  omega

variable {a b x low high : Single}

theorem lt_iff : a < b ↔ a.unpacked.compare b.unpacked = some .lt := by
  have hlt : a < b ↔ decide (a.toFloat32.toModel < b.toFloat32.toModel) = true := .rfl
  rw [← unpack_toFloat32, ← unpack_toFloat32, hlt, decide_eq_true_iff]
  exact beq_iff_eq

theorem beq_iff : (a == b) = true ↔ a.unpacked.compare b.unpacked = some .eq := by
  have hbeq : (a == b) =
      (a.toFloat32.toModel.unpack.compare b.toFloat32.toModel.unpack == some .eq) := rfl
  rw [← unpack_toFloat32, ← unpack_toFloat32, hbeq, beq_iff_eq]

theorem atMost_iff : Scalar.atMost a b = true ↔
    a.unpacked.compare b.unpacked = some .lt ∨ a.unpacked.compare b.unpacked = some .eq := by
  rw [Scalar.atMost, Bool.or_eq_true, decide_eq_true_iff, lt_iff, beq_iff]

/-- Two floats compare unless one of them is no number. -/
theorem compare_unpacked_eq_none_iff :
    a.unpacked.compare b.unpacked = none ↔ a.isNaN = true ∨ b.isNaN = true := by
  rw [compare_eq_none_iff, unpacked_eq_notANumber_iff, unpacked_eq_notANumber_iff]

/-- A non-number is less than nothing, and nothing less than it. -/
theorem not_lt_of_isNaN (h : a.isNaN = true ∨ b.isNaN = true) : ¬a < b := by
  rw [lt_iff, compare_unpacked_eq_none_iff.mpr h]
  simp

/-- Nor is a non-number equal to anything. -/
theorem atMost_eq_false_of_isNaN (h : a.isNaN = true ∨ b.isNaN = true) :
    Scalar.atMost a b = false := by
  rw [Bool.eq_false_iff, ne_eq, atMost_iff, compare_unpacked_eq_none_iff.mpr h]
  simp

/-- Of two numbers one is at most the other if the other is not less. -/
theorem atMost_of_not_lt (ha : a.isNaN = false) (hb : b.isNaN = false) (h : ¬b < a) :
    Scalar.atMost a b = true := by
  have hnumbers : a.unpacked.compare b.unpacked ≠ none := by
    rw [ne_eq, compare_unpacked_eq_none_iff, ha, hb]
    simp
  obtain ⟨o, ho⟩ := Option.ne_none_iff_exists'.mp hnumbers
  rw [lt_iff, compare_swap, ho] at h
  rw [atMost_iff, ho]
  cases o with
  | lt => exact .inl rfl
  | eq => exact .inr rfl
  | gt => exact absurd rfl h

/-- A number is at most itself. -/
theorem atMost_self (ha : a.isNaN = false) : Scalar.atMost a a = true := by
  by_cases h : a < a
  · simp [Scalar.atMost, h]
  · exact atMost_of_not_lt ha ha h

/-- A number is clamped between the bounds. -/
theorem atMost_clamp (hlow : low.isNaN = false) (hhigh : high.isNaN = false)
    (hbounds : Scalar.atMost low high = true) (hx : x.isNaN = false) :
    Scalar.atMost low (Scalar.clamp x low high) = true ∧
      Scalar.atMost (Scalar.clamp x low high) high = true := by
  by_cases hbelow : x < low
  · rw [Scalar.clamp, if_pos hbelow]
    by_cases habove : high < low
    · rw [if_pos habove]
      exact ⟨hbounds, atMost_self hhigh⟩
    · rw [if_neg habove]
      exact ⟨atMost_self hlow, hbounds⟩
  · rw [Scalar.clamp, if_neg hbelow]
    by_cases habove : high < x
    · rw [if_pos habove]
      exact ⟨hbounds, atMost_self hhigh⟩
    · rw [if_neg habove]
      exact ⟨atMost_of_not_lt hlow hx hbelow, atMost_of_not_lt hx hhigh habove⟩

/-- A non-number is not clamped at all. -/
theorem clamp_of_isNaN (hx : x.isNaN = true) : Scalar.clamp x low high = x := by
  rw [Scalar.clamp, if_neg (not_lt_of_isNaN (.inl hx))]
  exact if_neg (not_lt_of_isNaN (.inr hx))

/-- An operation with a non-number on either side gives a non-number. -/
theorem isNaN_map₂ {f : Float32 → Float32 → Float32}
    (h : a.isNaN = true ∨ b.isNaN = true) : (a.map₂ f b).isNaN = true := by
  by_cases ha : a.isNaN = true
  · rw [map₂_of_isNaN_left ha, ha]
  · have hb := h.resolve_left ha
    rw [map₂, if_neg ha, if_pos hb, hb]

theorem isNaN_add (h : a.isNaN = true ∨ b.isNaN = true) : (a + b).isNaN = true :=
  isNaN_map₂ h

theorem isNaN_mul (h : a.isNaN = true ∨ b.isNaN = true) : (a * b).isNaN = true :=
  isNaN_map₂ h

end Single

end Shipwright
