/-!
# Element numbers

All elements of a ship draw their numbers from one source, which never hands
out a number twice. A number therefore names one element for the lifetime of
the ship, even after that element is gone.
-/

namespace Shipwright

/-- The number of an element, shared by all kinds of elements. -/
structure ElementId where
  /-- The number itself. -/
  val : UInt32
  deriving DecidableEq, Repr, Inhabited

/-- An element number is shown in decimal. -/
instance : ToString ElementId := ⟨fun id => toString id.val.toNat⟩

/-- The source of element numbers. -/
structure IdSource where
  /-- The number handed out next. -/
  next : UInt32
  deriving DecidableEq, Repr

namespace IdSource

/-- A fresh source starts at 1. -/
def initial : IdSource := ⟨1⟩

instance : Inhabited IdSource := ⟨initial⟩

/-- The number that is handed out next. -/
def peek (s : IdSource) : ElementId := ⟨s.next⟩

/-- The next number, and the source past it. -/
def allocate (s : IdSource) : ElementId × IdSource := (⟨s.next⟩, ⟨s.next + 1⟩)

/-- The source whose future numbers are all greater than a given one. -/
def advancePast (s : IdSource) (id : ElementId) : IdSource := ⟨max s.next (id.val + 1)⟩

end IdSource

end Shipwright
