import Shipwright.Single
import Shipwright.Decimal.Integer

/-!
# Shortest decimal texts

A float is written with the fewest digits that still read back as the same
float, and with the digits nearest to it among those. The digits are a point of
the coarsest decimal grid that has a point among the reals which round to the
float. The text is positional for every magnitude, with `.0` behind integers.
-/

namespace Shipwright

namespace Decimal

/-- A positive finite float as `significand · 2 ^ exponent`. -/
structure Binary where
  /-- The whole number of units in the last place. -/
  significand : Nat
  /-- The power of two of one unit. -/
  exponent : Int
  /-- Whether the float below is only half a unit away. -/
  narrowBelow : Bool
  deriving DecidableEq, Repr

namespace Binary

/-- The float with a given bit pattern without sign. -/
def ofBits (bits : Nat) : Binary :=
  let field : Nat := bits / Nat.pow 2 23
  let fraction : Nat := bits % Nat.pow 2 23
  if field = 0 then ⟨fraction, -149, false⟩
  else ⟨Nat.pow 2 23 + fraction, (field : Int) - 150, fraction = 0 && decide (1 < field)⟩

/-- The factor that turns a multiple of `10 ^ k` into quarters of a unit over a common scale. -/
def gridFactor (b : Binary) (k : Int) : Nat :=
  Nat.pow 10 k.toNat * Nat.pow 2 (2 - b.exponent).toNat

/-- The factor that turns quarters of a unit into the same common scale. -/
def unitFactor (b : Binary) (k : Int) : Nat :=
  Nat.pow 10 (-k).toNat * Nat.pow 2 (b.exponent - 2).toNat

/-- Whether `n · 10 ^ k` is among the reals that round to the float: half a unit to either side,
a quarter below a power of two, ends included when the significand is even. -/
def covers (b : Binary) (k : Int) (n : Nat) : Bool :=
  let point := n * b.gridFactor k
  let low := (4 * b.significand - if b.narrowBelow then 1 else 2) * b.unitFactor k
  let high := (4 * b.significand + 2) * b.unitFactor k
  if b.significand % 2 = 0 then low ≤ point && point ≤ high else low < point && point < high

/-- The point of the grid of `10 ^ k` that is nearest to the float among those that round to it;
of two equally near ones the larger. -/
def gridPoint? (b : Binary) (k : Int) : Option Nat :=
  let value := 4 * b.significand * b.unitFactor k
  let step := b.gridFactor k
  let below := value / step
  let above := below + 1
  match b.covers k below, b.covers k above with
  | true, true => some (if value - below * step < above * step - value then below else above)
  | true, false => some below
  | false, true => some above
  | false, false => none

/-- Looks through a number of grids, from that of `10 ^ k` to finer ones. -/
def searchGrid (b : Binary) : Nat → Int → Option (Nat × Int)
  | 0, _ => none
  | n + 1, k =>
    match b.gridPoint? k with
    | some digits => some (digits, k)
    | none => searchGrid b n (k - 1)

/-- The digits and power of ten of the shortest decimal. The grids from `10 ^ 39` to `10 ^ -46`
span all magnitudes of single precision. -/
def shortest (b : Binary) : Nat × Int := (b.searchGrid 86 39).getD (0, 0)

end Binary

/-- The positional text of `n · 10 ^ k`, with `.0` behind an integer. -/
def positional (n : Nat) (k : Int) : List Char :=
  if 0 ≤ k then digits n ++ List.replicate k.toNat '0' ++ ['.', '0']
  else
    let places := (-k).toNat
    let ds := digits n
    let padded := List.replicate (places + 1 - ds.length) '0' ++ ds
    padded.take (padded.length - places) ++ '.' :: padded.drop (padded.length - places)

/-- The text of a float by its bit pattern. -/
def ofBits (bits : Nat) : List Char :=
  let magnitude := bits % Nat.pow 2 31
  let sign := if Nat.pow 2 31 ≤ bits then ['-'] else []
  if 0x7F800000 < magnitude then sign ++ ['N', 'a', 'N']
  else if magnitude = 0x7F800000 then sign ++ ['i', 'n', 'f']
  else if magnitude = 0 then sign ++ ['0', '.', '0']
  else
    let (n, k) := (Binary.ofBits magnitude).shortest
    sign ++ positional n k

/-- The shortest text of a single-precision float. -/
def ofSingle (x : Single) : List Char := ofBits x.bits.toNat

end Decimal

end Shipwright
