import Shipwright.Element.Basic

/-!
# Stores of elements

A store keeps the elements of one kind in the order in which they were added.
Adding stamps an element with a fresh number; looking up, changing and removing
go by number and act on the first element that has it.
-/

namespace Shipwright

/-- Things that carry an element number. -/
class Element (ε : Type) where
  /-- The number of an element. -/
  id : ε → ElementId
  /-- The element under another number. -/
  withId : ε → ElementId → ε
  /-- A renumbered element carries its new number. -/
  id_withId : ∀ e i, id (withId e i) = i := by intros; rfl

/-- Elements that can be moved about. -/
class Placed (ε : Type) (α : outParam Type) [Element ε] where
  /-- Where an element is. -/
  position : ε → Vec3 α
  /-- The element at another place. -/
  withPosition : ε → Vec3 α → ε
  /-- A moved element is at its new place. -/
  position_withPosition : ∀ e p, position (withPosition e p) = p := by intros; rfl
  /-- Moving an element keeps its number. -/
  id_withPosition : ∀ e p, Element.id (withPosition e p) = Element.id e := by intros; rfl

instance {α : Type} : Element (ControlPoint α) where
  id := (·.id)
  withId e id := { e with id }

instance {α : Type} : Element (Hardpoint α) where
  id := (·.id)
  withId e id := { e with id }

instance {α : Type} : Element (Light α) where
  id := (·.id)
  withId e id := { e with id }

instance {α : Type} : Element (Room α) where
  id := (·.id)
  withId e id := { e with id }

instance {α : Type} : Element (Feature α) where
  id := (·.id)
  withId e id := { e with id }

instance {α : Type} : Placed (ControlPoint α) α where
  position := (·.position)
  withPosition e position := { e with position }

instance {α : Type} : Placed (Hardpoint α) α where
  position := (·.position)
  withPosition e position := { e with position }

instance {α : Type} : Placed (Light α) α where
  position := (·.position)
  withPosition e position := { e with position }

instance {α : Type} : Placed (Feature α) α where
  position := (·.position)
  withPosition e position := { e with position }

/-- The list with its first element of some property changed. -/
def modifyFirst {ε : Type} (p : ε → Bool) (f : ε → ε) : List ε → List ε
  | [] => []
  | e :: es => if p e then f e :: es else e :: modifyFirst p f es

@[simp] theorem length_modifyFirst {ε : Type} (p : ε → Bool) (f : ε → ε) (es : List ε) :
    (modifyFirst p f es).length = es.length := by
  induction es with
  | nil => rfl
  | cons e es ih => simp only [modifyFirst]; split <;> simp [ih]

/-- The elements of one kind in the order of their adding. -/
structure Store (ε : Type) where
  /-- The elements, oldest first. -/
  items : List ε
  deriving Repr, BEq

namespace Store

variable {ε : Type}

/-- The store without elements. -/
def empty : Store ε := ⟨[]⟩

instance : Inhabited (Store ε) := ⟨empty⟩

/-- The number of elements. -/
def size (s : Store ε) : Nat := s.items.length

/-- Whether there are no elements. -/
def isEmpty (s : Store ε) : Bool := s.items.isEmpty

section Element

variable [Element ε]

/-- Whether an element has a given number. -/
def hasId (id : ElementId) (e : ε) : Bool := Element.id e = id

/-- The element with a given number. -/
def get? (s : Store ε) (id : ElementId) : Option ε := s.items.find? (hasId id)

/-- The store with an element added under a fresh number. -/
def insert (s : Store ε) (e : ε) (ids : IdSource) : Store ε × IdSource × ElementId :=
  let (id, ids) := ids.allocate
  (⟨s.items ++ [Element.withId e id]⟩, ids, id)

/-- The store without the element of a given number, and that element. -/
def remove (s : Store ε) (id : ElementId) : Store ε × Option ε :=
  (⟨s.items.eraseP (hasId id)⟩, s.get? id)

/-- The store with the element of a given number changed. -/
def modify (s : Store ε) (id : ElementId) (f : ε → ε) : Store ε :=
  ⟨modifyFirst (hasId id) f s.items⟩

/-- The largest element number. -/
def maxId? (s : Store ε) : Option ElementId :=
  (s.items.map fun e => (Element.id e).val).max?.map ElementId.mk

/-- A list of elements stamped with fresh numbers in order, and the source past them. -/
def stamp (ids : IdSource) : List ε → List ε × IdSource
  | [] => ([], ids)
  | e :: es =>
    let (id, ids) := ids.allocate
    let (es, ids) := stamp ids es
    (Element.withId e id :: es, ids)

@[simp] theorem items_insert (s : Store ε) (e : ε) (ids : IdSource) :
    (s.insert e ids).1.items = s.items ++ [Element.withId e ids.peek] := rfl

@[simp] theorem size_insert (s : Store ε) (e : ε) (ids : IdSource) :
    (s.insert e ids).1.size = s.size + 1 := by simp [size]

@[simp] theorem size_modify (s : Store ε) (id : ElementId) (f : ε → ε) :
    (s.modify id f).size = s.size := by simp [size, modify]

/-- A change that keeps numbers changes what is found under its own number. -/
theorem get?_modify (s : Store ε) (id : ElementId) {f : ε → ε}
    (hf : ∀ e, Element.id (f e) = Element.id e) :
    (s.modify id f).get? id = (s.get? id).map f := by
  obtain ⟨items⟩ := s
  induction items with
  | nil => rfl
  | cons e es ih =>
    simp only [get?, modify, modifyFirst] at ih ⊢
    by_cases h : hasId id e
    · have hfe : hasId id (f e) := by simpa [hasId, hf] using h
      simp [h, hfe]
    · simpa [h] using ih

/-- Removing an element leaves the others in order. -/
theorem sublist_remove (s : Store ε) (id : ElementId) :
    (s.remove id).1.items.Sublist s.items := List.eraseP_sublist

/-- A number that no element has is removed without a change. -/
theorem remove_of_get?_eq_none {s : Store ε} {id : ElementId} (h : s.get? id = none) :
    s.remove id = (s, none) := by
  have hnone : ∀ e ∈ s.items, ¬ hasId id e := by simpa [get?] using h
  simp only [remove, h, Prod.mk.injEq, and_true]
  rw [List.eraseP_of_forall_not hnone]

@[simp] theorem length_stamp (ids : IdSource) (es : List ε) :
    (stamp ids es).1.length = es.length := by
  induction es generalizing ids with
  | nil => rfl
  | cons e es ih => simp [stamp, ih]

end Element

/-- The store with an element moved, and where it was before. -/
def move {α : Type} [Element ε] [Placed ε α] (s : Store ε) (id : ElementId) (position : Vec3 α) :
    Store ε × Option (Vec3 α) :=
  (s.modify id (Placed.withPosition · position), (s.get? id).map Placed.position)

end Store

end Shipwright
