/-!
# Values of the object notation

Ship files are written in RON, an object notation with named records, tuples,
lists, maps, numbers, texts and bare words. A `Value` is one such value before
anything is known of its type: numbers keep their literal, and a record or tuple
keeps the name in front of it, if it has one.
-/

namespace Shipwright.Ron

/-- A value of the notation. -/
inductive Value where
  /-- `true` or `false`. -/
  | bool (value : Bool)
  /-- A number by its literal. -/
  | number (literal : String)
  /-- A character in single quotes. -/
  | character (value : Char)
  /-- A text in double quotes. -/
  | text (value : String)
  /-- A byte string. -/
  | bytes (value : List UInt8)
  /-- A bare word, such as a tag. -/
  | word (name : String)
  /-- `None`. -/
  | absent
  /-- `Some` with its content. -/
  | present (content : Value)
  /-- Named fields in parentheses. -/
  | record (name : Option String) (fields : List (String × Value))
  /-- Items in parentheses; `spaced` tells whether a blank parts the name from them. -/
  | tuple (name : Option String) (spaced : Bool) (items : List Value)
  /-- Items in brackets. -/
  | list (items : List Value)
  /-- Pairs of keys and values in braces. -/
  | dict (entries : List (Value × Value))

instance : Inhabited Value := ⟨.absent⟩

/-- What a document may switch on in its first lines. -/
structure Extensions where
  /-- A wrapper around a single value is written as the value. -/
  unwrapNewtypes : Bool
  /-- A value may stand for `Some` of it. -/
  implicitSome : Bool
  /-- The content of `Some` may be fields or items without parentheses of their own. -/
  unwrapVariantNewtypes : Bool
  /-- Records and tuples must carry their names. -/
  explicitStructNames : Bool
  deriving DecidableEq, Repr

namespace Extensions

/-- Nothing switched on. -/
def none : Extensions := ⟨false, false, false, false⟩

/-- The extensions with one more switched on by its name; an unknown name is refused. -/
def enable (exts : Extensions) : String → Option Extensions
  | "unwrap_newtypes" => some { exts with unwrapNewtypes := true }
  | "implicit_some" => some { exts with implicitSome := true }
  | "unwrap_variant_newtypes" => some { exts with unwrapVariantNewtypes := true }
  | "explicit_struct_names" => some { exts with explicitStructNames := true }
  | _ => Option.none

/-- Whether the name in front of a record or tuple will do for the expected one. -/
def admits (exts : Extensions) (expected : String) : Option String → Bool
  | Option.none => !exts.explicitStructNames
  | some name => name = expected

end Extensions

end Shipwright.Ron
