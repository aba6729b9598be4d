import Shipwright.Vec3
import Shipwright.OrderedMap
import Shipwright.Decimal.Shortest
import Shipwright.Ron.Writer
import Shipwright.Ron.Reader

/-!
# Typed values in the notation

A codec says how a type is written as a value and which values are read as the
type. Records are read by field name in any order: fields nobody asks for are
ignored, a field given twice is refused, and a field that is missing is refused
unless it has a default. A document is read with the extensions it switches on.
-/

namespace Shipwright.Ron

/-- How a type is written and read. -/
class Codec (τ : Type) where
  /-- The value a thing is written as. -/
  encode : τ → Value
  /-- The thing a value is read as. -/
  decode : Extensions → Value → Option τ

namespace Codec

/-- The full text of a document. -/
def write {τ : Type} [Codec τ] (x : τ) : String := String.ofList ((encode x).pretty 0)

/-- The compact text of a document. -/
def writeCompact {τ : Type} [Codec τ] (x : τ) : String := String.ofList (encode x).compact

/-- The thing a document is read as. -/
def read (τ : Type) [Codec τ] (text : String) : Option τ :=
  (Reader.document text.toList).bind fun d => decode d.1 d.2

end Codec

namespace Value

/-- The fields of a record of an expected name; an empty tuple is a record without fields. -/
def fields? (exts : Extensions) (name : String) : Value → Option (List (String × Value))
  | .record n fields => if exts.admits name n then some fields else none
  | .tuple n _ [] => if exts.admits name n then some [] else none
  | _ => none

/-- The items of a tuple of an expected name, which stands right before them. -/
def items? (exts : Extensions) (name : String) : Value → Option (List Value)
  | .tuple n spaced items => if exts.admits name n && !spaced then some items else none
  | _ => none

/-- The content of a wrapper of an expected name. -/
def content? (exts : Extensions) (name : String) (v : Value) : Option Value :=
  if exts.unwrapNewtypes then some v
  else
    match v with
    | .tuple n _ [content] => if exts.admits name n then some content else none
    | _ => none

end Value

/-- The one value of a field that must be given. -/
def required {τ : Type} [Codec τ] (exts : Extensions) (fields : List (String × Value))
    (name : String) : Option τ :=
  match fields.filter (·.1 = name) with
  | [f] => Codec.decode exts f.2
  | _ => none

/-- The one value of a field, or a default where it is not given. -/
def withDefault {τ : Type} [Codec τ] (exts : Extensions) (fields : List (String × Value))
    (name : String) (fallback : τ) : Option τ :=
  match fields.filter (·.1 = name) with
  | [] => some fallback
  | [f] => Codec.decode exts f.2
  | _ => none

namespace Codec

/-- A closed set of tags is written by bare words. -/
abbrev tagged {τ : Type} (label : τ → String) (all : List τ) : Codec τ where
  encode x := .word (label x)
  decode _
    | .word name => all.find? (label · = name)
    | _ => none

/-- A wrapper around one value is written with its name and the value in parentheses. -/
abbrev wrapped {σ τ : Type} [Codec σ] (name : String) (wrap : σ → τ) (unwrap : τ → σ) :
    Codec τ where
  encode x := .tuple (some name) false [encode (unwrap x)]
  decode exts v := (v.content? exts name).bind fun c => (decode exts c).map wrap

/-- The value of an integer. -/
def ofInteger (i : Int) : Value := .number (String.ofList (Decimal.ofInt i))

/-- The integer of a type that a value is. -/
def integer? (t : Number.IntegerType) : Value → Option Int
  | .number literal => Number.integerOf? t literal
  | _ => none

instance : Codec Bool where
  encode := .bool
  decode _
    | .bool b => some b
    | _ => none

instance : Codec String where
  encode := .text
  decode _
    | .text s => some s
    | _ => none

instance : Codec UInt16 where
  encode n := ofInteger n.toNat
  decode _ v := (integer? (.unsigned 16) v).map fun i => UInt16.ofNat i.toNat

instance : Codec UInt32 where
  encode n := ofInteger n.toNat
  decode _ v := (integer? (.unsigned 32) v).map fun i => UInt32.ofNat i.toNat

instance : Codec UInt64 where
  encode n := ofInteger n.toNat
  decode _ v := (integer? (.unsigned 64) v).map fun i => UInt64.ofNat i.toNat

instance : Codec Single where
  encode x := .number (String.ofList (Decimal.ofSingle x))
  decode _
    | .number literal => Number.single? literal
    | _ => none

instance {τ : Type} [Codec τ] : Codec (List τ) where
  encode xs := .list (xs.map encode)
  decode exts
    | .list items => items.mapM (decode exts)
    | _ => none

instance {ν : Type} [Codec ν] : Codec (OrderedMap String ν) where
  encode m := .dict (m.entries.map fun e => (encode e.1, encode e.2))
  decode exts
    | .dict entries =>
      (entries.mapM fun (e : Value × Value) => do
        let key : String ← decode exts e.1
        let value : ν ← decode exts e.2
        return (key, value)).map .ofList
    | _ => none

instance {α : Type} [Codec α] : Codec (Vec3 α) where
  encode v := .tuple (some "Vec3") false (v.toList.map encode)
  decode exts v := do
    match ← v.items? exts "Vec3" with
    | [x, y, z] => return ⟨← decode exts x, ← decode exts y, ← decode exts z⟩
    | _ => none

end Codec

end Shipwright.Ron
