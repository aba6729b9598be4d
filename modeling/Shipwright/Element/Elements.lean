import Shipwright.Element.Store

/-!
# The elements of one ship

A ship has one store for each kind of element and one source of numbers for all
of them. A `Fitting` is a kind of element together with its place among the
stores, so that what holds of every kind is said once.
-/

namespace Shipwright

/-- The stores of a ship and their common source of numbers. -/
structure Elements (α : Type) where
  /-- The hull spine. -/
  controlPoints : Store (ControlPoint α)
  /-- The weapon mounts. -/
  hardpoints : Store (Hardpoint α)
  /-- The lights. -/
  lights : Store (Light α)
  /-- The walkable sections. -/
  rooms : Store (Room α)
  /-- The attachments of the hull. -/
  features : Store (Feature α)
  /-- The source of element numbers. -/
  ids : IdSource
  deriving Repr

namespace Elements

variable {α : Type}

/-- No elements, and a fresh source of numbers. -/
def empty : Elements α := ⟨.empty, .empty, .empty, .empty, .empty, .initial⟩

instance : Inhabited (Elements α) := ⟨empty⟩

/-- The number of elements in all stores. -/
def count (s : Elements α) : Nat :=
  s.controlPoints.size + s.hardpoints.size + s.lights.size + s.rooms.size + s.features.size

/-- The largest element number in any store. -/
def maxId? (s : Elements α) : Option ElementId :=
  ([s.controlPoints.maxId?, s.hardpoints.maxId?, s.lights.maxId?, s.rooms.maxId?,
    s.features.maxId?].filterMap fun id => id.map (·.val)).max?.map ElementId.mk

end Elements

/-- A kind of element with its store among those of a ship. -/
class Fitting (α : outParam Type) (ε : Type) [Element ε] where
  /-- The store of this kind. -/
  store : Elements α → Store ε
  /-- The elements with another store of this kind. -/
  withStore : Elements α → Store ε → Elements α
  /-- A replaced store is found again. -/
  store_withStore : ∀ s t, store (withStore s t) = t := by intros; rfl
  /-- A store does not depend on the source of numbers. -/
  store_withIds : ∀ s ids, store { s with ids } = store s := by intros; rfl
  /-- Replacing a store leaves the source of numbers alone. -/
  ids_withStore : ∀ s t, (withStore s t).ids = s.ids := by intros; rfl

instance {α : Type} : Fitting α (ControlPoint α) where
  store := (·.controlPoints)
  withStore s controlPoints := { s with controlPoints }

instance {α : Type} : Fitting α (Hardpoint α) where
  store := (·.hardpoints)
  withStore s hardpoints := { s with hardpoints }

instance {α : Type} : Fitting α (Light α) where
  store := (·.lights)
  withStore s lights := { s with lights }

instance {α : Type} : Fitting α (Room α) where
  store := (·.rooms)
  withStore s rooms := { s with rooms }

instance {α : Type} : Fitting α (Feature α) where
  store := (·.features)
  withStore s features := { s with features }

namespace Elements

variable {α ε : Type} [Element ε] [Fitting α ε]

/-- The elements with one added under a fresh number, and that number. -/
def add (s : Elements α) (e : ε) : Elements α × ElementId :=
  let (store, ids, id) := (Fitting.store s).insert e s.ids
  ({ Fitting.withStore s store with ids }, id)

/-- The elements without the one of a given kind and number, and that one. -/
def remove (ε : Type) [Element ε] [Fitting α ε] (s : Elements α) (id : ElementId) :
    Elements α × Option ε :=
  let (store, removed) := (Fitting.store s : Store ε).remove id
  (Fitting.withStore s store, removed)

@[simp] theorem store_add (s : Elements α) (e : ε) :
    Fitting.store (s.add e).1 = ((Fitting.store s).insert e s.ids).1 := by
  simp only [add, Fitting.store_withIds, Fitting.store_withStore]

@[simp] theorem snd_add (s : Elements α) (e : ε) : (s.add e).2 = s.ids.peek := rfl

/-- Removing an element leaves the source of numbers alone. -/
@[simp] theorem ids_remove (s : Elements α) (id : ElementId) : (s.remove ε id).1.ids = s.ids :=
  Fitting.ids_withStore s _

/-- The elements with one kind replaced by a list, stamped with fresh numbers. -/
def restock (s : Elements α) (es : List ε) : Elements α :=
  let (items, ids) := Store.stamp s.ids es
  { Fitting.withStore s (⟨items⟩ : Store ε) with ids }

end Elements

end Shipwright
