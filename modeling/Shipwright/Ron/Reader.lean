import Shipwright.Text.Identifier
import Shipwright.Ron.Value
import Shipwright.Ron.Quoted

/-!
# Reading values

A document is a value with blanks and comments around it, behind any number of
lines that switch on extensions. The reader works on the characters that are
left and answers the value with the rest, or nothing. Brackets nest to a fixed
depth: a bracket takes one unit of it and each of its parts another, and `Some`
takes one. Where the content of `Some` may lack parentheses of its own, a look
ahead tells a single value from fields or items.
-/

namespace Shipwright.Ron

/-- A reader answers what it read and the characters after it. -/
abbrev Reader (τ : Type) := List Char → Option (τ × List Char)

namespace Reader

/-- Whether a character is blank between the parts of a document. -/
def isBlank (c : Char) : Bool :=
  c = ' ' || c = '\t' || c = '\n' || c = '\r' || c = '\x0b' || c = '\x0c' || c = '\u0085' ||
    c = '\u200e' || c = '\u200f' || c = '\u2028' || c = '\u2029'

/-- Where the characters between two parts stand. -/
inductive Gap where
  /-- Among blanks. -/
  | blank
  /-- In a comment up to the end of the line. -/
  | line
  /-- In a comment with so many open brackets. -/
  | block (depth : Nat)
  deriving DecidableEq, Repr

/-- Passes over blanks and comments. A comment in brackets must be closed, and comments nest. -/
def skipGap : Gap → List Char → Option (List Char)
  | .blank, [] => some []
  | .blank, '/' :: '/' :: cs => skipGap .line cs
  | .blank, '/' :: '*' :: cs => skipGap (.block 0) cs
  | .blank, '/' :: _ => none
  | .blank, c :: cs => if isBlank c then skipGap .blank cs else some (c :: cs)
  | .line, [] => some []
  | .line, '\n' :: cs => skipGap .blank cs
  | .line, _ :: cs => skipGap .line cs
  | .block _, [] => none
  | .block n, '/' :: '*' :: cs => skipGap (.block (n + 1)) cs
  | .block 0, '*' :: '/' :: cs => skipGap .blank cs
  | .block (n + 1), '*' :: '/' :: cs => skipGap (.block n) cs
  | .block n, _ :: cs => skipGap (.block n) cs

/-- Passes over blanks and comments between two parts. -/
def skip (cs : List Char) : Option (List Char) := skipGap .blank cs

/-- Passes over one character that must come next. -/
def expect (c : Char) : List Char → Option (List Char)
  | d :: cs => if d = c then some cs else none
  | [] => none

/-- Whether a character may stand in an identifier behind `r#`. -/
def isRawRest (c : Char) : Bool := c = '.' || c = '+' || c = '-' || isIdentifierRest c

/-- An identifier; behind `r#` it is no keyword. -/
structure Identifier where
  /-- Whether it was written behind `r#`. -/
  raw : Bool
  /-- The identifier itself. -/
  name : String
  deriving DecidableEq, Repr

/-- Reads the identifier behind `r#`. -/
def rawIdentifier (cs : List Char) : Option (Identifier × List Char) :=
  let name := cs.takeWhile isRawRest
  if name.isEmpty then none else some (⟨true, String.ofList name⟩, cs.dropWhile isRawRest)

/-- Reads an identifier by its first character and those that may follow. -/
def plainIdentifier : List Char → Option (Identifier × List Char)
  | c :: cs =>
    if isIdentifierStart c then
      some (⟨false, String.ofList (c :: cs.takeWhile isIdentifierRest)⟩,
        cs.dropWhile isIdentifierRest)
    else none
  | [] => none

/-- What looks like an identifier and is the beginning of a text or of bytes. -/
def opensQuoted (cs : List Char) : Bool :=
  ["b\"", "b'", "br#", "br\"", "r\"", "r#\"", "r##"].any fun s => s.toList.isPrefixOf cs

/-- Reads an identifier where a value may stand. -/
def identifier (cs : List Char) : Option (Identifier × List Char) :=
  if opensQuoted cs then none
  else
    match cs with
    | 'r' :: '#' :: rest => rawIdentifier rest
    | cs => plainIdentifier cs

/-- Reads the name of a field: an identifier that no point or sign follows. -/
def fieldName (cs : List Char) : Option (String × List Char) :=
  match identifier cs with
  | some (i, rest) =>
    if !i.raw && (rest.head?.map isRawRest).getD false then none else some (i.name, rest)
  | none => none

/-- Whether a character may stand in a number literal. -/
def isLiteralChar (c : Char) : Bool :=
  c.isAlphanum || c = '_' || c = '.' || c = '+' || c = '-'

/-- Reads a number literal. -/
def number (cs : List Char) : Option (Value × List Char) :=
  let literal := cs.takeWhile isLiteralChar
  if Number.isLiteral literal then
    some (.number (String.ofList literal), cs.dropWhile isLiteralChar)
  else none

/-- Reads items with commas between them, and perhaps behind the last, up to a closing bracket. -/
def items {τ : Type} (close : Char) (item : Reader τ) : Nat → Reader (List τ)
  | 0, _ => none
  | n + 1, cs => do
    match ← skip cs with
    | [] => none
    | c :: rest =>
      if c = close then return ([], rest)
      else
        let (x, cs) ← item (c :: rest)
        match ← skip cs with
        | ',' :: cs =>
          let (xs, cs) ← items close item n cs
          return (x :: xs, cs)
        | d :: cs => if d = close then return ([x], cs) else none
        | [] => none

/-- Reads all items up to a closing bracket; each takes at least one character. -/
def enclosed {τ : Type} (close : Char) (item : Reader τ) : Reader (List τ) :=
  fun cs => items close item (cs.length + 1) cs

/-- Reads a key, a colon and a value. -/
def pair {κ ν : Type} (key : Reader κ) (value : Reader ν) : Reader (κ × ν) := fun cs => do
  let (k, cs) ← key cs
  let cs ← expect ':' (← skip cs)
  let (v, cs) ← value (← skip cs)
  return ((k, v), cs)

/-- Whether named fields come next: an identifier and a colon. -/
def opensField (cs : List Char) : Bool :=
  match identifier cs with
  | some (_, rest) => ((skip rest).bind List.head?) = some ':'
  | none => false

/-- Reads what follows an opening parenthesis: named fields or items, up to the closing one. -/
def parenthesized (name : Option String) (spaced : Bool) (part : Reader Value) : Reader Value :=
  fun cs => do
    let cs ← skip cs
    if opensField cs then
      let (fields, cs) ← enclosed ')' (pair fieldName part) cs
      return (.record name fields, cs)
    else
      let (parts, cs) ← enclosed ')' part cs
      return (.tuple name spaced parts, cs)

/-- The words that are reals. -/
def isRealWord (word : String) : Bool :=
  word = "inf" || word = "inff32" || word = "inff64" || word = "NaN" || word = "NaNf32" ||
    word = "NaNf64"

/-- How deep a reader may still go: whether brackets may open, and how what is inside is read. -/
structure Depth where
  /-- Whether a bracket may open. -/
  opens : Bool
  /-- Reads the content of `Some` where it stands without parentheses. -/
  bare : Reader Value
  /-- Reads the content of `Some` in parentheses, with the closing one. -/
  wrapped : Reader Value
  /-- Reads a part of a bracket. -/
  part : Reader Value

/-- Nothing may open. -/
def Depth.none : Depth := ⟨false, fun _ => .none, fun _ => .none, fun _ => .none⟩

/-- Reads what follows the word `Some`. -/
def optional (exts : Extensions) (d : Depth) : Reader Value := fun cs => do
  if !d.opens then none
  else
    match ← skip cs with
    | '(' :: cs =>
      let (content, cs) ← d.wrapped (← skip cs)
      return (.present content, cs)
    | cs =>
      if exts.implicitSome then
        let (content, cs) ← d.bare cs
        return (.present content, cs)
      else none

/-- Reads a value that begins with an identifier: a keyword, a bare word, or a name in front of
fields or items. -/
def named (exts : Extensions) (d : Depth) (i : Identifier) : Reader Value := fun cs => do
  if !i.raw && i.name = "true" then return (.bool true, cs)
  else if !i.raw && i.name = "false" then return (.bool false, cs)
  else if !i.raw && i.name = "None" then return (.absent, cs)
  else if !i.raw && isRealWord i.name then return (.number i.name, cs)
  else if !i.raw && i.name = "Some" then optional exts d cs
  else
    match ← skip cs with
    | '(' :: rest =>
      if d.opens then parenthesized (some i.name) (cs.head? ≠ some '(') d.part rest else none
    | rest => return (.word i.name, rest)

/-- Reads a text in double quotes, raw or not. -/
def quotedText : List Char → Except Quoted.Fault (List Char × List Char)
  | '"' :: cs => Quoted.decode cs
  | 'r' :: cs => Quoted.decodeRaw cs
  | _ => .error .notOpened

/-- Reads a byte string in double quotes, raw or not. -/
def quotedBytes : List Char → Except Quoted.Fault (List UInt8 × List Char)
  | 'b' :: '"' :: cs => Quoted.decodeBytes cs
  | 'b' :: 'r' :: cs => (Quoted.decodeRaw cs).map fun p => (Quoted.utf8 p.1, p.2)
  | _ => .error .notOpened

/-- Reads a character in single quotes. -/
def quotedCharacter : Reader Char
  | '\'' :: cs => Quoted.character cs
  | _ => none

/-- What is left of characters behind a quoted text at their front, or all of them where none
can be read; one that is not closed is refused. -/
def restOf {τ : Type} (cs : List Char) : Except Quoted.Fault (τ × List Char) → Option (List Char)
  | .ok (_, rest) => some rest
  | .error .notClosed => none
  | .error _ => some cs

/-- Passes over what is quoted: a character, then a text, then a byte string. -/
def skipQuoted (cs : List Char) : Option (List Char) := do
  let cs := ((quotedCharacter cs).map (·.2)).getD cs
  let cs ← restOf cs (quotedText cs)
  restOf cs (quotedBytes cs)

/-- Reads a value that begins with a bracket, a quote or a digit. -/
def unnamed (d : Depth) : Reader Value := fun cs => do
  match cs with
  | '(' :: ')' :: cs => return (.tuple none false [], cs)
  | '(' :: cs => if d.opens then parenthesized none false d.part cs else none
  | '[' :: cs =>
    if d.opens then
      let (parts, cs) ← enclosed ']' d.part cs
      return (.list parts, cs)
    else none
  | '\x7b' :: cs =>
    if d.opens then
      let (entries, cs) ← enclosed '\x7d' (pair d.part d.part) cs
      return (.dict entries, cs)
    else none
  | 'b' :: '\'' :: cs =>
    let (b, cs) ← Quoted.byteCharacter cs
    return (.bytes [b], cs)
  | '\'' :: _ =>
    let (c, cs) ← quotedCharacter cs
    return (.character c, cs)
  | '"' :: _ | 'r' :: _ =>
    let (s, cs) ← (quotedText cs).toOption
    return (.text (String.ofList s), cs)
  | 'b' :: _ =>
    let (bs, cs) ← (quotedBytes cs).toOption
    return (.bytes bs, cs)
  | cs => number cs

/-- Reads a value at some depth. -/
def valueAt (exts : Extensions) (d : Depth) : Reader Value := fun cs =>
  match identifier cs with
  | some (i, rest) => named exts d i rest
  | none => unnamed d cs

/-- Whether a closing parenthesis comes before the first comma outside of any brackets, or right
behind it. Brackets in comments and quoted texts do not count; whatever follows a quoted text is
taken as a character of its own. -/
def closesSoon : Nat → Nat → List Char → Option Bool
  | 0, _, _ => none
  | n + 1, depth, cs => do
    match ← skipQuoted (← skip cs) with
    | [] => none
    | c :: cs =>
      if c = '(' || c = '[' || c = '\x7b' then closesSoon n (depth + 1) cs
      else if c = ')' || c = ']' || c = '\x7d' then
        if depth = 0 then return true else closesSoon n (depth - 1) cs
      else if c = ',' && depth = 0 then return (← skip cs).head? = some ')'
      else closesSoon n depth cs

/-- Looks ahead to tell whether parentheses hold a single value, and no named fields. -/
def holdsOne (cs : List Char) : Option Bool := do
  match identifier cs with
  | some (_, rest) =>
    match ← skip rest with
    | ':' :: _ => return false
    | ',' :: rest => return (← skip rest).head? = some ')'
    | rest => closesSoon (rest.length + 1) 0 rest
  | none => closesSoon (cs.length + 1) 0 cs

/-- Reads a single value and the closing parenthesis, perhaps with a comma between them. -/
def single (value : Reader Value) : Reader Value := fun cs => do
  let (content, cs) ← value cs
  match ← skip cs with
  | ',' :: cs => return (content, ← expect ')' (← skip cs))
  | cs => return (content, ← expect ')' cs)

/-- Reads the content of `Some` in parentheses. Under the extension for it, the parentheses of
the content itself may be left out. -/
def wrapped (exts : Extensions) (d : Depth) : Reader Value := fun cs => do
  if exts.unwrapVariantNewtypes then
    if cs.head? = some ')' then return (.tuple none false [], cs.tail)
    else if ← holdsOne cs then single (valueAt exts d) cs
    else if d.opens then parenthesized none false d.part cs
    else none
  else single (valueAt exts d) cs

/-- The readers with so many units of depth left. -/
def depth (exts : Extensions) : Nat → Depth
  | 0 => .none
  | n + 1 => let d := depth exts n; ⟨true, valueAt exts d, wrapped exts d, d.bare⟩

/-- Reads a value with so many units of depth left. -/
def value (exts : Extensions) (n : Nat) : Reader Value := valueAt exts (depth exts n)

/-- The units of depth of a document. -/
def maxDepth : Nat := 128

/-- Reads the names of extensions up to the closing parenthesis. -/
def extensionNames : Nat → Extensions → List Char → Option (Extensions × List Char)
  | 0, _, _ => none
  | n + 1, exts, cs => do
    let (name, cs) ← fieldName cs
    let exts ← exts.enable name
    match ← skip cs with
    | ',' :: cs =>
      let cs ← skip cs
      if (cs.head?.map isIdentifierRest).getD false then extensionNames n exts cs
      else return (exts, ← expect ')' cs)
    | cs => return (exts, ← expect ')' cs)

/-- Passes over words that must come next, with blanks behind each. -/
def expectAll : List String → List Char → Option (List Char)
  | [], cs => some cs
  | word :: words, cs =>
    if word.toList.isPrefixOf cs then (skip (cs.drop word.length)).bind (expectAll words) else none

/-- Reads the lines that switch on extensions. -/
def attributes : Nat → Extensions → List Char → Option (Extensions × List Char)
  | 0, exts, cs => some (exts, cs)
  | n + 1, exts, cs =>
    if cs.head? = some '#' then do
      let cs ← expectAll ["#", "!", "[", "enable", "("] cs
      let (exts, cs) ← extensionNames (cs.length + 1) exts cs
      let cs ← expectAll ["]"] (← skip cs)
      attributes n exts cs
    else some (exts, cs)

/-- Reads a whole document: its extensions and its value, with nothing behind it. -/
def document (cs : List Char) : Option (Extensions × Value) := do
  let cs ← skip cs
  let (exts, cs) ← attributes cs.length .none cs
  let (v, cs) ← value exts maxDepth cs
  match ← skip cs with
  | [] => return (exts, v)
  | _ => none

end Reader

end Shipwright.Ron
