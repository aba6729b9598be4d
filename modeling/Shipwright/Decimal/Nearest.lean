import Shipwright.Single
import Shipwright.Decimal.Integer

/-!
# Reading decimals into single precision

A decimal is a sign, a whole number and a power of ten. It is read as the
single-precision float nearest to it, and as the one with the even significand
when it lies halfway between two. Everything is exact arithmetic on naturals;
the float is given by its bit pattern.
-/

namespace Shipwright

namespace Decimal

/-- A decimal number: sign, whole number, power of ten. -/
structure Scientific where
  /-- Whether there is a minus sign. -/
  negative : Bool
  /-- The digits as a whole number. -/
  significand : Nat
  /-- The power of ten it is multiplied by. -/
  exponent : Int
  deriving DecidableEq, Repr

/-- The quotient rounded to the nearest natural, halves to the even one. -/
def roundDiv (num den : Nat) : Nat :=
  let q := num / den
  let r := num % den
  if 2 * r < den then q else if den < 2 * r then q + 1 else q + q % 2

/-- The bit pattern of infinity in single precision. -/
def infinityBits : Nat := 0x7F800000

/-- The largest `e` with `2 ^ e ≤ num / den`, for positive `num` and `den`. -/
def floorLog2 (num den : Nat) : Int :=
  let e : Int := (num.log2 : Int) - den.log2
  if den * Nat.pow 2 e.toNat ≤ num * Nat.pow 2 (-e).toNat then e else e - 1

/-- The bits of the float nearest to a positive quotient: 24 significant bits above the least
exponent, fewer at it, and infinity past the largest float. -/
def nearestBits (num den : Nat) : Nat :=
  let q := max (floorLog2 num den - 23) (-149)
  let m := roundDiv (num * Nat.pow 2 (-q).toNat) (den * Nat.pow 2 q.toNat)
  min ((q + 149).toNat * Nat.pow 2 23 + m) infinityBits

/-- The bits of the float nearest to a decimal without its sign. Powers of ten far outside the
range of single precision are settled without computing them. -/
def magnitudeBits (significand : Nat) (exponent : Int) : Nat :=
  let places := exponent + (digits significand).length
  if significand = 0 ∨ places < -45 then 0
  else if 40 < places then infinityBits
  else nearestBits (significand * Nat.pow 10 exponent.toNat) (Nat.pow 10 (-exponent).toNat)

/-- The float nearest to a decimal. -/
def Scientific.toSingle (d : Scientific) : Single :=
  let bits := magnitudeBits d.significand d.exponent
  ⟨UInt32.ofNat (if d.negative then bits + Nat.pow 2 31 else bits)⟩

end Decimal

end Shipwright
