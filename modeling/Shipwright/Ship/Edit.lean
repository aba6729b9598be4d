import Shipwright.Element.Format

/-!
# Edits

What a designer did to an element, with the value before and after, so that the
history of a ship can be learned from and replayed. Places are recorded as they
are, radii in the x component.
-/

namespace Shipwright

open Ron Codec

/-- What an edit changed. -/
inductive EditKind where
  | moveControlPoint
  | resizeControlPoint
  | moveHardpoint
  | moveLight
  | addHardpoint
  | addLight
  | removeElement
  deriving DecidableEq, Repr

namespace EditKind

/-- All kinds of edits. -/
def all : List EditKind :=
  [.moveControlPoint, .resizeControlPoint, .moveHardpoint, .moveLight, .addHardpoint, .addLight,
    .removeElement]

/-- The word for a kind of edit. -/
def label : EditKind → String
  | .moveControlPoint => "move_control_point"
  | .resizeControlPoint => "resize_control_point"
  | .moveHardpoint => "move_hardpoint"
  | .moveLight => "move_light"
  | .addHardpoint => "add_hardpoint"
  | .addLight => "add_light"
  | .removeElement => "remove_element"

end EditKind

/-- A recorded edit. -/
structure Edit (α : Type) where
  /-- What was changed. -/
  kind : EditKind
  /-- The class of the ship. -/
  className : String
  /-- The element. -/
  target : ElementId
  /-- The value before the edit. -/
  before : Vec3 α
  /-- The value after the edit. -/
  after : Vec3 α
  /-- When the edit was made, in seconds. -/
  time : UInt64
  deriving Repr, BEq

instance : Codec EditKind := tagged EditKind.label EditKind.all

instance {α : Type} [Codec α] : Codec (Edit α) where
  encode e := .record (some "EditRecord")
    [("kind", encode e.kind), ("ship_class", encode e.className), ("target", encode e.target),
      ("old_value", encode e.before), ("new_value", encode e.after),
      ("timestamp", encode e.time)]
  decode exts v := do
    let fs ← v.fields? exts "EditRecord"
    return ⟨← required exts fs "kind", ← required exts fs "ship_class",
      ← required exts fs "target", ← required exts fs "old_value",
      ← required exts fs "new_value", ← required exts fs "timestamp"⟩

end Shipwright
