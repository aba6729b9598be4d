import Shipwright.Text.Printable
import Shipwright.Ron.Number

/-!
# Quoted texts

A text is written between double quotes: both kinds of quotes and the backslash
behind a backslash, five controls by a letter or digit, and every character
that does not show by itself by its code point. Reading also takes characters
by their bytes, and raw texts, which end at the first quote followed by as many
hash signs as they began with.
-/

namespace Shipwright.Ron

namespace Quoted

/-- Why a quoted text is not read. -/
inductive Fault where
  /-- No quote opens it. -/
  | notOpened
  /-- No quote closes it. -/
  | notClosed
  /-- A backslash stands before what it cannot stand before. -/
  | badEscape
  deriving DecidableEq, Repr

/-- The written form of one character. -/
def encodeChar (c : Char) : List Char :=
  if c = '\x00' then ['\\', '0']
  else if c = '\t' then ['\\', 't']
  else if c = '\n' then ['\\', 'n']
  else if c = '\r' then ['\\', 'r']
  else if c = '\'' then ['\\', '\'']
  else if c = '"' then ['\\', '"']
  else if c = '\\' then ['\\', '\\']
  else if isPrintable c then [c]
  else ['\\', 'u', '\x7b'] ++ Nat.toDigits 16 c.toNat ++ ['\x7d']

/-- A text between its quotes. -/
def encode (cs : List Char) : List Char := '"' :: cs.flatMap encodeChar ++ ['"']

/-- The number written by hexadecimal digits. -/
def hexValue? (cs : List Char) : Option Nat :=
  cs.foldlM (fun n c => (Number.hexDigit? c).map (16 * n + ·)) 0

/-- The character with a code point, if it is one. -/
def charOf? (n : Nat) : Option Char := if h : n.isValidChar then some (Char.ofNatAux n h) else none

/-- Reads a code point in braces: one to six hexadecimal digits. -/
def codePoint : List Char → Option (Char × List Char)
  | '\x7b' :: cs =>
    let ds := cs.takeWhile (· ≠ '\x7d')
    match cs.dropWhile (· ≠ '\x7d') with
    | _ :: rest =>
      if ds.isEmpty || 6 < ds.length then none
      else ((hexValue? ds).bind charOf?).map (·, rest)
    | [] => none
  | _ => none

/-- Reads a byte as two hexadecimal digits. -/
def byte : List Char → Option (UInt8 × List Char)
  | a :: b :: cs => (hexValue? [a, b]).map fun n => (n.toUInt8, cs)
  | _ => none

/-- The single character that bytes encode in UTF-8. -/
def utf8Char? (bs : List UInt8) : Option Char :=
  match String.fromUTF8? ⟨bs.toArray⟩ with
  | some s => match s.toList with
    | [c] => some c
    | _ => none
  | none => none

/-- Reads a character by at most so many bytes, each behind `\x`; the first is already open. -/
def byteChar : Nat → List UInt8 → List Char → Option (Char × List Char)
  | 0, _, _ => none
  | n + 1, bs, cs =>
    match byte cs with
    | none => none
    | some (b, cs) =>
      match utf8Char? (bs ++ [b]) with
      | some c => some (c, cs)
      | none =>
        match cs with
        | '\\' :: 'x' :: cs => byteChar n (bs ++ [b]) cs
        | _ => none

/-- The characters that stand for another one behind a backslash. -/
def shorthand? : Char → Option Char
  | '\'' => some '\''
  | '"' => some '"'
  | '\\' => some '\\'
  | 'n' => some '\n'
  | 'r' => some '\r'
  | 't' => some '\t'
  | '0' => some '\x00'
  | _ => none

/-- Reads what follows a backslash, with at most so many bytes to a character. -/
def escape (maxBytes : Nat) : List Char → Option (Char × List Char)
  | 'x' :: cs => byteChar maxBytes [] cs
  | 'u' :: cs => codePoint cs
  | c :: cs => (shorthand? c).map (·, cs)
  | [] => none

/-- The fault of a backslash that cannot be read, by what follows it: a text that no further
quote could close counts as not closed. -/
def escapeFault (cs : List Char) : Fault := if cs.contains '"' then .badEscape else .notClosed

/-- Reads a text up to its closing quote; every step uses up at least one character. -/
def body : Nat → List Char → Except Fault (List Char × List Char)
  | 0, _ => .error .notClosed
  | _ + 1, [] => .error .notClosed
  | _ + 1, '"' :: cs => .ok ([], cs)
  | n + 1, '\\' :: cs =>
    match escape 4 cs with
    | some (c, cs) => (body n cs).map fun p => (c :: p.1, p.2)
    | none => .error (escapeFault cs)
  | n + 1, c :: cs => (body n cs).map fun p => (c :: p.1, p.2)

/-- Reads a text whose opening quote has been read. -/
def decode (cs : List Char) : Except Fault (List Char × List Char) := body (cs.length + 1) cs

/-- Reads a raw text up to a quote with a number of hash signs. -/
def rawBody (hashes : Nat) : List Char → Except Fault (List Char × List Char)
  | [] => .error .notClosed
  | c :: cs =>
    if c = '"' ∧ (List.replicate hashes '#').isPrefixOf cs then .ok ([], cs.drop hashes)
    else (rawBody hashes cs).map fun p => (c :: p.1, p.2)

/-- Reads a raw text whose leading letter has been read. -/
def decodeRaw (cs : List Char) : Except Fault (List Char × List Char) :=
  match cs.dropWhile (· = '#') with
  | '"' :: rest => rawBody (cs.takeWhile (· = '#')).length rest
  | _ => .error .notOpened

/-- Reads a character whose opening quote has been read. -/
def character (cs : List Char) : Option (Char × List Char) :=
  let read := match cs with
    | '\\' :: cs => escape 1 cs
    | c :: cs => some (c, cs)
    | [] => none
  match read with
  | some (c, '\'' :: cs) => some (c, cs)
  | _ => none

/-- The bytes of characters in UTF-8. -/
def utf8 (cs : List Char) : List UInt8 := (String.ofList cs).toUTF8.toList

/-- Reads a byte string up to its closing quote; every step uses up at least one character. -/
def bytesBody : Nat → List Char → Except Fault (List UInt8 × List Char)
  | 0, _ => .error .notClosed
  | _ + 1, [] => .error .notClosed
  | _ + 1, '"' :: cs => .ok ([], cs)
  | n + 1, '\\' :: 'x' :: cs =>
    match byte cs with
    | some (b, cs) => (bytesBody n cs).map fun p => (b :: p.1, p.2)
    | none => .error (escapeFault cs)
  | n + 1, '\\' :: cs =>
    match escape 0 cs with
    | some (c, cs) => (bytesBody n cs).map fun p => (utf8 [c] ++ p.1, p.2)
    | none => .error (escapeFault cs)
  | n + 1, c :: cs => (bytesBody n cs).map fun p => (utf8 [c] ++ p.1, p.2)

/-- Reads a byte string whose opening quote has been read. -/
def decodeBytes (cs : List Char) : Except Fault (List UInt8 × List Char) :=
  bytesBody (cs.length + 1) cs

/-- Reads a byte in single quotes whose opening quote has been read. -/
def byteCharacter (cs : List Char) : Option (UInt8 × List Char) :=
  let read : Option (UInt8 × List Char) := match cs with
    | '\\' :: 'x' :: cs => byte cs
    | '\\' :: 'u' :: _ => none
    | '\\' :: cs => (escape 0 cs).map fun p => (p.1.toNat.toUInt8, p.2)
    | c :: cs => if c.toNat < 128 then some (c.toNat.toUInt8, cs) else none
    | [] => none
  match read with
  | some (b, '\'' :: cs) => some (b, cs)
  | _ => none

end Quoted

end Shipwright.Ron
