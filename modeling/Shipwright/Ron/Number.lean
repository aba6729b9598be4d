import Shipwright.Decimal.Real

/-!
# Number literals

An integer literal is an optional sign and digits in base ten, or in base two,
eight or sixteen behind `0b`, `0o` or `0x`; underscores may follow the first
digit, and the name of an integer type may follow the digits. A real literal is
a decimal with the same liberties, or one of `inf` and `NaN`. A literal is read
by the type that is expected: a real may be written as an integer, an integer
never with a point.
-/

namespace Shipwright.Ron

namespace Number

/-- An integer type by its name and its range. -/
structure IntegerType where
  /-- The name that may follow a literal. -/
  name : String
  /-- The least number. -/
  low : Int
  /-- The greatest number. -/
  high : Int
  deriving DecidableEq, Repr

/-- The unsigned type with a number of bits. -/
def IntegerType.unsigned (bits : Nat) : IntegerType :=
  ⟨"u" ++ toString bits, 0, (Nat.pow 2 bits : Int) - 1⟩

/-- The signed type with a number of bits. -/
def IntegerType.signed (bits : Nat) : IntegerType :=
  ⟨"i" ++ toString bits, -(Nat.pow 2 (bits - 1) : Int), (Nat.pow 2 (bits - 1) : Int) - 1⟩

/-- All types whose names may follow a literal. -/
def IntegerType.all : List IntegerType :=
  [8, 16, 32, 64].map .unsigned ++ [8, 16, 32, 64].map .signed

/-- The value of a digit in bases up to sixteen. -/
def hexDigit? (c : Char) : Option Nat :=
  if c.isDigit then some (c.toNat - 48)
  else if 'a' ≤ c ∧ c ≤ 'f' then some (c.toNat - 87)
  else if 'A' ≤ c ∧ c ≤ 'F' then some (c.toNat - 55)
  else none

/-- The value of digits in a base after those read so far; underscores are passed over. -/
def valueFrom (base : Nat) : Nat → List Char → Option Nat
  | n, [] => some n
  | n, c :: cs =>
    if c = '_' then valueFrom base n cs
    else
      match hexDigit? c with
      | some d => if d < base then valueFrom base (base * n + d) cs else none
      | none => none

/-- The number written by a nonempty run of digits that does not begin with an underscore. -/
def digits? (base : Nat) : List Char → Option Nat
  | [] => none
  | '_' :: _ => none
  | cs => valueFrom base 0 cs

/-- The number written by digits behind an optional base. -/
def unsigned? : List Char → Option Nat
  | '0' :: 'b' :: cs => digits? 2 cs
  | '0' :: 'x' :: cs => digits? 16 cs
  | '0' :: 'o' :: cs => digits? 8 cs
  | cs => digits? 10 cs

/-- Whether a character may stand before the type name of an integer literal. -/
def isDigitLike (c : Char) : Bool := (hexDigit? c).isSome || c = '_'

/-- Splits the type name off an integer literal; it begins with the first `i` or `u`. -/
def spanType (cs : List Char) : List Char × List Char :=
  match cs.dropWhile isDigitLike with
  | 'i' :: rest => (cs.takeWhile isDigitLike, 'i' :: rest)
  | 'u' :: rest => (cs.takeWhile isDigitLike, 'u' :: rest)
  | _ => (cs, [])

/-- The integer written by a literal and the name of its type, which may be empty. -/
def integer? (cs : List Char) : Option (Int × String) :=
  let (negative, rest) := Decimal.spanSign cs
  let (body, type) := spanType rest
  (unsigned? body).map fun n => (if negative then -(n : Int) else n, String.ofList type)

/-- Whether a number lies in the range of a type. -/
def IntegerType.holds (t : IntegerType) (i : Int) : Bool := t.low ≤ i && i ≤ t.high

/-- The integer of an expected type written by a literal. -/
def integerOf? (t : IntegerType) (literal : String) : Option Int :=
  match integer? literal.toList with
  | some (i, type) => if (type = "" ∨ type = t.name) ∧ t.holds i then some i else none
  | none => none

/-- Whether a literal is an integer of any type, of 64 bits where none is named. -/
def isInteger (cs : List Char) : Bool :=
  match integer? cs with
  | some (i, type) =>
    if type = "" then
      IntegerType.holds ⟨"", (IntegerType.signed 64).low, (IntegerType.unsigned 64).high⟩ i
    else IntegerType.all.any fun t => t.name = type && t.holds i
  | none => false

/-- Whether a character may stand in the digits of a real literal. -/
def isRealLike (c : Char) : Bool :=
  c.isDigit || c = 'e' || c = 'E' || c = '.' || c = '+' || c = '-' || c = '_'

/-- The literal without its underscores: each must follow a digit, an exponent mark or another
underscore that does. -/
def dropUnderscores : Bool → List Char → Option (List Char)
  | _, [] => some []
  | allowed, c :: cs =>
    if c = '_' then if allowed then dropUnderscores allowed cs else none
    else
      let allowed := if c = '.' then false else allowed || c.isDigit || c = 'e' || c = 'E'
      (dropUnderscores allowed cs).map (c :: ·)

/-- The names of reals without digits, with and without a sign. -/
def names : List String := ["inf", "+inf", "-inf", "NaN", "+NaN", "-NaN"]

/-- The real written by a literal and the name of its type, which may be empty. -/
def real? (cs : List Char) : Option (Single × String) :=
  match names.find? fun name => name.toList.isPrefixOf cs with
  | some name =>
    (Decimal.single? name.toList).map (·, String.ofList (cs.drop name.length))
  | none =>
    match (dropUnderscores false (cs.takeWhile isRealLike)).bind Decimal.single? with
    | some x => some (x, String.ofList (cs.dropWhile isRealLike))
    | none => none

/-- The single-precision real written by a literal. -/
def single? (literal : String) : Option Single :=
  match real? literal.toList with
  | some (x, type) => if type = "" ∨ type = "f32" then some x else none
  | none => none

/-- Whether a literal is a real of either precision. -/
def isReal (cs : List Char) : Bool :=
  match real? cs with
  | some (_, type) => type = "" || type = "f32" || type = "f64"
  | none => false

/-- Whether a run of characters is a number literal at all. -/
def isLiteral (cs : List Char) : Bool := isReal cs || isInteger cs

end Number

end Shipwright.Ron
