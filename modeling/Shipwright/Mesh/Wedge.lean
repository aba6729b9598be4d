import Shipwright.Element.Basic
import Shipwright.Mesh.Basic

/-!
# Hull features

Fins, antennae, vents and the like are wedges: a narrow edge at the front and
full width at the back, stretched by the feature's scale and turned by its yaw.
A stretch that is not positive is replaced by a default for its axis.
-/

namespace Shipwright

namespace Mesh

/-- The eight faces of a wedge: bottom, right, left, top and back. -/
def wedgeFaces : List Triangle :=
  [(0, 3, 2), (0, 1, 5), (0, 5, 3), (0, 2, 4), (0, 4, 1), (1, 4, 5), (2, 3, 5), (2, 5, 4)]

/-- A scalar that is positive, or a fallback. -/
def positiveOr {α : Type} [Scalar α] (a fallback : α) : α := if (0.0 : α) < a then a else fallback

/-- The vertices of a wedge before it is turned and placed. -/
def wedgeCorners {α : Type} [Scalar α] (scale : Vec3 α) : List (Corner α) :=
  let half := positiveOr scale.x 0.3 / 2.0
  let up := positiveOr scale.y 0.1
  let along := positiveOr scale.z 0.5
  [ ⟨⟨0.0, 0.0, -along⟩, ⟨0.0, 0.0, -1.0⟩⟩,
    ⟨⟨0.0, up, -along⟩, ⟨0.0, 0.0, -1.0⟩⟩,
    ⟨⟨-half, 0.0, along⟩, ⟨-0.7, 0.0, 0.7⟩⟩,
    ⟨⟨half, 0.0, along⟩, ⟨0.7, 0.0, 0.7⟩⟩,
    ⟨⟨-half, up, along⟩, ⟨-0.7, 0.0, 0.7⟩⟩,
    ⟨⟨half, up, along⟩, ⟨0.7, 0.0, 0.7⟩⟩ ]

/-- The wedge of a feature. -/
def wedge {α : Type} [Trigonometric α] (feature : Feature α) : Mesh α :=
  let yaw := Yaw.ofDegrees feature.rotation
  ofCorners
    ((wedgeCorners feature.scale).map fun c =>
      ⟨feature.position + yaw.apply c.position, yaw.apply c.normal⟩)
    wedgeFaces

end Mesh

end Shipwright
