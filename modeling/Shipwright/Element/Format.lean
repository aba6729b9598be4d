import Shipwright.Element.Store
import Shipwright.Ron.Codec

/-!
# Elements in files

How element numbers, tags, elements and stores of elements are written. Every
element is a record with all of its fields; reading one back asks for each of
them.
-/

namespace Shipwright

open Ron Codec

instance : Codec ElementId := wrapped "ElementId" ElementId.mk ElementId.val

instance : Codec IdSource where
  encode s := .record (some "IdAllocator") [("next", encode s.next)]
  decode exts v := do
    let fs ← v.fields? exts "IdAllocator"
    return ⟨← required exts fs "next"⟩

instance : Codec MountSize := tagged MountSize.label MountSize.all

instance : Codec WeaponType := tagged WeaponType.label WeaponType.all

instance : Codec LightKind := tagged LightKind.label LightKind.all

instance : Codec FeatureKind := tagged FeatureKind.label FeatureKind.all

variable {α : Type} [Codec α]

instance : Codec (ControlPoint α) where
  encode e := .record (some "ControlPoint")
    [("id", encode e.id), ("position", encode e.position), ("radius", encode e.radius),
      ("weight", encode e.weight)]
  decode exts v := do
    let fs ← v.fields? exts "ControlPoint"
    return ⟨← required exts fs "id", ← required exts fs "position", ← required exts fs "radius",
      ← required exts fs "weight"⟩

instance : Codec (Hardpoint α) where
  encode e := .record (some "Hardpoint")
    [("id", encode e.id), ("position", encode e.position), ("direction", encode e.direction),
      ("size", encode e.size), ("weapon_type", encode e.weapon)]
  decode exts v := do
    let fs ← v.fields? exts "Hardpoint"
    return ⟨← required exts fs "id", ← required exts fs "position",
      ← required exts fs "direction", ← required exts fs "size",
      ← required exts fs "weapon_type"⟩

instance : Codec (Light α) where
  encode e := .record (some "ShipLight")
    [("id", encode e.id), ("position", encode e.position), ("color", encode e.color),
      ("intensity", encode e.intensity), ("range", encode e.range), ("kind", encode e.kind),
      ("interior", encode e.interior)]
  decode exts v := do
    let fs ← v.fields? exts "ShipLight"
    return ⟨← required exts fs "id", ← required exts fs "position", ← required exts fs "color",
      ← required exts fs "intensity", ← required exts fs "range", ← required exts fs "kind",
      ← required exts fs "interior"⟩

instance : Codec (Room α) where
  encode e := .record (some "InteriorSection")
    [("id", encode e.id), ("name", encode e.name), ("bounds_min", encode e.low),
      ("bounds_max", encode e.high), ("has_cockpit", encode e.cockpit)]
  decode exts v := do
    let fs ← v.fields? exts "InteriorSection"
    return ⟨← required exts fs "id", ← required exts fs "name", ← required exts fs "bounds_min",
      ← required exts fs "bounds_max", ← required exts fs "has_cockpit"⟩

instance : Codec (Feature α) where
  encode e := .record (some "VisualFeature")
    [("id", encode e.id), ("kind", encode e.kind), ("position", encode e.position),
      ("scale", encode e.scale), ("rotation", encode e.rotation)]
  decode exts v := do
    let fs ← v.fields? exts "VisualFeature"
    return ⟨← required exts fs "id", ← required exts fs "kind", ← required exts fs "position",
      ← required exts fs "scale", ← required exts fs "rotation"⟩

instance {ε : Type} [Codec ε] : Codec (Store ε) where
  encode s := .record (some "ElementStore") [("items", encode s.items)]
  decode exts v := do
    let fs ← v.fields? exts "ElementStore"
    return ⟨← required exts fs "items"⟩

end Shipwright
