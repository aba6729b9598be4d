import Shipwright.Ron.Value
import Shipwright.Ron.Quoted

/-!
# Writing values

Files are written in full: names in front of records and tuples, each field,
item and entry on a line of its own, four blanks deeper than the line that
opens it, and a comma behind every one. Tuples stay on one line. The compact
form leaves out names, blanks and closing commas.
-/

namespace Shipwright.Ron

namespace Value

/-- The blanks in front of a line at some depth. -/
def indent (depth : Nat) : List Char := List.replicate (4 * depth) ' '

/-- Lines inside a bracket that was opened at some depth; none leaves the bracket empty. -/
def block (depth : Nat) (lines : List Char) : List Char :=
  if lines.isEmpty then [] else '\n' :: lines ++ indent depth

/-- The name in front of a record or tuple. -/
def nameChars (name : Option String) : List Char := (name.map String.toList).getD []

/-- A byte in the written form of a byte string. -/
def byteChars (b : UInt8) : List Char :=
  let ds := Nat.toDigits 16 b.toNat
  ['\\', 'x'] ++ List.replicate (2 - ds.length) '0' ++ ds

/-- The written form of a value without parts. -/
def atom : Value → List Char
  | .bool b => if b then "true".toList else "false".toList
  | .number literal => literal.toList
  | .character c => '\'' :: Quoted.encodeChar c ++ ['\'']
  | .text s => Quoted.encode s.toList
  | .bytes bs => ['b', '"'] ++ bs.flatMap byteChars ++ ['"']
  | .word name => name.toList
  | .absent => "None".toList
  | _ => []

mutual

/-- The full form of a value whose line is at some depth. -/
def pretty (depth : Nat) : Value → List Char
  | .record name fields =>
    nameChars name ++ '(' :: block depth (prettyFields (depth + 1) fields) ++ [')']
  | .tuple name _ items => nameChars name ++ '(' :: prettyRow depth items ++ [')']
  | .list items => '[' :: block depth (prettyItems (depth + 1) items) ++ [']']
  | .dict entries => '\x7b' :: block depth (prettyEntries (depth + 1) entries) ++ ['\x7d']
  | .present content => "Some(".toList ++ pretty depth content ++ [')']
  | .bool b => atom (.bool b)
  | .number literal => atom (.number literal)
  | .character c => atom (.character c)
  | .text s => atom (.text s)
  | .bytes bs => atom (.bytes bs)
  | .word name => atom (.word name)
  | .absent => atom .absent

/-- The lines of fields. -/
def prettyFields (depth : Nat) : List (String × Value) → List Char
  | [] => []
  | (name, value) :: fields =>
    indent depth ++ name.toList ++ [':', ' '] ++ pretty depth value ++ [',', '\n'] ++
      prettyFields depth fields

/-- The lines of items. -/
def prettyItems (depth : Nat) : List Value → List Char
  | [] => []
  | value :: items =>
    indent depth ++ pretty depth value ++ [',', '\n'] ++ prettyItems depth items

/-- The lines of entries. -/
def prettyEntries (depth : Nat) : List (Value × Value) → List Char
  | [] => []
  | (key, value) :: entries =>
    indent depth ++ pretty depth key ++ [':', ' '] ++ pretty depth value ++ [',', '\n'] ++
      prettyEntries depth entries

/-- The items of a tuple on one line. -/
def prettyRow (depth : Nat) : List Value → List Char
  | [] => []
  | value :: items =>
    pretty depth value ++ (if items.isEmpty then [] else [',', ' ']) ++ prettyRow depth items

end

mutual

/-- The compact form of a value. -/
def compact : Value → List Char
  | .record _ fields => '(' :: compactFields fields ++ [')']
  | .tuple _ _ items => '(' :: compactItems items ++ [')']
  | .list items => '[' :: compactItems items ++ [']']
  | .dict entries => '\x7b' :: compactEntries entries ++ ['\x7d']
  | .present content => "Some(".toList ++ compact content ++ [')']
  | .bool b => atom (.bool b)
  | .number literal => atom (.number literal)
  | .character c => atom (.character c)
  | .text s => atom (.text s)
  | .bytes bs => atom (.bytes bs)
  | .word name => atom (.word name)
  | .absent => atom .absent

/-- The compact forms of fields with commas between them. -/
def compactFields : List (String × Value) → List Char
  | [] => []
  | (name, value) :: fields =>
    name.toList ++ ':' :: compact value ++ (if fields.isEmpty then [] else [',']) ++
      compactFields fields

/-- The compact forms of items with commas between them. -/
def compactItems : List Value → List Char
  | [] => []
  | value :: items =>
    compact value ++ (if items.isEmpty then [] else [',']) ++ compactItems items

/-- The compact forms of entries with commas between them. -/
def compactEntries : List (Value × Value) → List Char
  | [] => []
  | (key, value) :: entries =>
    compact key ++ ':' :: compact value ++ (if entries.isEmpty then [] else [',']) ++
      compactEntries entries

end

end Value

end Shipwright.Ron
