/-!
# Paths

A path is a text of names with slashes between them; it is absolute if it
begins with a slash. Joining a path to a folder puts it behind the folder,
unless the path is absolute and leads elsewhere.
-/

namespace Shipwright

/-- A path to a folder or file. -/
structure Path where
  /-- The names with slashes between them. -/
  text : String
  deriving DecidableEq, Repr, Inhabited

namespace Path

/-- The pieces of a text between its slashes. -/
def splitSlash : List Char → List (List Char)
  | [] => [[]]
  | c :: cs =>
    if c = '/' then [] :: splitSlash cs
    else
      match splitSlash cs with
      | [] => [[c]]
      | piece :: pieces => (c :: piece) :: pieces

/-- The pieces of a path between its slashes. -/
def pieces (p : Path) : List String := (splitSlash p.text.toList).map String.ofList

/-- Whether a path leads from the root. -/
def isAbsolute (p : Path) : Bool := p.text.toList.head? = some '/'

/-- Whether a path ends in a slash. -/
def endsInSlash (p : Path) : Bool := p.text.toList.getLast? = some '/'

/-- The path behind a folder, with one slash between them; an absolute path stays as it is. -/
def join (folder p : Path) : Path :=
  if p.isAbsolute then p
  else if folder.text.isEmpty || folder.endsInSlash then ⟨folder.text ++ p.text⟩
  else ⟨folder.text ++ "/" ++ p.text⟩

/-- Whether a piece leads nowhere: between two slashes, or a single point. -/
def isStill (piece : String) : Bool := piece = "" || piece = "."

/-- The names a path passes through, without pieces that lead nowhere. -/
def names (p : Path) : List String := p.pieces.filter (!isStill ·)

/-- The pieces that are left of a path behind some names. -/
def piecesBehind? : List String → List String → Option (List String)
  | [], pieces => some (pieces.dropWhile isStill)
  | name :: names, pieces =>
    match pieces.dropWhile isStill with
    | piece :: pieces => if piece = name then piecesBehind? names pieces else none
    | [] => none

/-- The part of a path behind a folder that it passes through. -/
def relativeTo? (folder p : Path) : Option Path :=
  if folder.isAbsolute = p.isAbsolute then
    (piecesBehind? folder.names p.pieces).map fun pieces => ⟨"/".intercalate pieces⟩
  else none

/-- The last name of a path, if it names something. -/
def fileName? (p : Path) : Option String := p.names.getLast?.filter (· ≠ "..")

/-- The names in front of the last one. -/
def parentNames (p : Path) : List String := p.names.dropLast

end Path

end Shipwright
