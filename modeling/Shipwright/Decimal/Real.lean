import Shipwright.Decimal.Nearest

/-!
# Decimal texts of reals

The grammar of a real: an optional sign, digits with at most one point among
them, and an optional power of ten behind `e`. There is at least one digit
before or after the point. Infinity and the non-number have names, in capitals
or not.
-/

namespace Shipwright

namespace Decimal

/-- Splits off the digits at the front. -/
def spanDigits (cs : List Char) : List Char × List Char :=
  (cs.takeWhile Char.isDigit, cs.dropWhile Char.isDigit)

/-- The power of ten written behind the digits: nothing, or `e` and a signed integer. -/
def exponent? : List Char → Option Int
  | [] => some 0
  | c :: cs => if c = 'e' ∨ c = 'E' then signed? cs else none

/-- The decimal written by an unsigned text. -/
def unsignedReal? (negative : Bool) (cs : List Char) : Option Scientific :=
  let (whole, rest) := spanDigits cs
  let (fraction, rest) := match rest with
    | '.' :: rest => spanDigits rest
    | _ => ([], rest)
  if whole.isEmpty && fraction.isEmpty then none
  else
    (exponent? rest).map fun e =>
      ⟨negative, valueFrom 0 (whole ++ fraction), e - fraction.length⟩

/-- Splits off a sign; the flag says whether it is a minus. -/
def spanSign : List Char → Bool × List Char
  | '+' :: cs => (false, cs)
  | '-' :: cs => (true, cs)
  | cs => (false, cs)

/-- The float written by a text. -/
def single? (cs : List Char) : Option Single :=
  let (negative, rest) := spanSign cs
  let word := String.ofList (rest.map Char.toLower)
  if word = "inf" ∨ word = "infinity" then some ⟨if negative then 0xFF800000 else 0x7F800000⟩
  else if word = "nan" then some ⟨if negative then 0xFFC00000 else 0x7FC00000⟩
  else (unsignedReal? negative rest).map Scientific.toSingle

end Decimal

end Shipwright
