import Shipwright.Text.Blank
import Shipwright.Decimal.Real
import Shipwright.Graph.Node

/-!
# Typed properties

A property is a text. Read as a value of some type, the white space around it
is dropped; a text that is absent, blank or no value of the type gives a
default.
-/

namespace Shipwright

/-- Types whose values are written as property texts. -/
class PropertyValue (τ : Type) where
  /-- The value written by a text without white space around it. -/
  ofText? : List Char → Option τ

namespace PropertyValue

/-- A natural number if it lies below a bound. -/
def below (bound : Nat) (n : Nat) : Option Nat := if n < bound then some n else none

/-- An integer if it lies between minus a bound and, exclusively, the bound. -/
def between (bound : Nat) (i : Int) : Option Int :=
  if -(bound : Int) ≤ i ∧ i < bound then some i else none

instance : PropertyValue Int32 where
  ofText? cs := ((Decimal.signed? cs).bind (between (Nat.pow 2 31))).map Int32.ofInt

instance : PropertyValue Int64 where
  ofText? cs := ((Decimal.signed? cs).bind (between (Nat.pow 2 63))).map Int64.ofInt

instance : PropertyValue UInt8 where
  ofText? cs := ((Decimal.unsigned? cs).bind (below (Nat.pow 2 8))).map UInt8.ofNat

instance : PropertyValue UInt16 where
  ofText? cs := ((Decimal.unsigned? cs).bind (below (Nat.pow 2 16))).map UInt16.ofNat

instance : PropertyValue UInt32 where
  ofText? cs := ((Decimal.unsigned? cs).bind (below (Nat.pow 2 32))).map UInt32.ofNat

instance : PropertyValue UInt64 where
  ofText? cs := ((Decimal.unsigned? cs).bind (below (Nat.pow 2 64))).map UInt64.ofNat

instance : PropertyValue Bool where
  ofText? cs :=
    if cs = "true".toList then some true else if cs = "false".toList then some false else none

instance : PropertyValue String where
  ofText? cs := some (String.ofList cs)

instance : PropertyValue Single where
  ofText? := Decimal.single?

end PropertyValue

/-- A property read as a value of some type, or the default. -/
def Node.parseProperty {κ τ : Type} [PropertyValue τ] (n : Node κ) (key : String)
    (fallback : τ) : τ :=
  match n.property? key with
  | none => fallback
  | some text =>
    let cs := trim text.toList
    if cs.isEmpty then fallback else (PropertyValue.ofText? cs).getD fallback

end Shipwright
