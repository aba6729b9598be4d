import Shipwright.Ship.Design
import Shipwright.Ron.Codec

/-!
# Learned profiles

A profile holds running averages over the finished designs of one class. Each
design is one sample; designs without control points have no extent, so that
the averages of length and width pass over them.
-/

namespace Shipwright

open Ron Codec

/-- Running averages over designs of one class. -/
structure LearnedProfile (α : Type) where
  /-- The name of the class. -/
  className : String
  /-- The mean number of control points. -/
  controlPoints : α
  /-- The mean length. -/
  length : α
  /-- The mean width. -/
  width : α
  /-- The mean number of hardpoints. -/
  hardpoints : α
  /-- The mean number of lights. -/
  lights : α
  /-- The mean number of rooms. -/
  rooms : α
  /-- The number of designs learned from. -/
  samples : UInt32
  deriving Repr, BEq

instance {α : Type} [Codec α] : Codec (LearnedProfile α) where
  encode p := .record (some "LearningProfile")
    [("ship_class", encode p.className), ("avg_control_point_count", encode p.controlPoints),
      ("avg_hull_length", encode p.length), ("avg_hull_width", encode p.width),
      ("avg_turret_count", encode p.hardpoints), ("avg_light_count", encode p.lights),
      ("avg_interior_count", encode p.rooms), ("sample_count", encode p.samples)]
  decode exts v := do
    let fs ← v.fields? exts "LearningProfile"
    return ⟨← required exts fs "ship_class", ← required exts fs "avg_control_point_count",
      ← required exts fs "avg_hull_length", ← required exts fs "avg_hull_width",
      ← required exts fs "avg_turret_count", ← required exts fs "avg_light_count",
      ← required exts fs "avg_interior_count", ← required exts fs "sample_count"⟩

namespace LearnedProfile

variable {α : Type} [Scalar α]

/-- The profile of a class before anything is learned. -/
def blank (className : String) : LearnedProfile α := ⟨className, 0.0, 0.0, 0.0, 0.0, 0.0, 0.0, 0⟩

instance : Inhabited (LearnedProfile α) := ⟨blank ""⟩

/-- Whether anything has been learned. -/
def hasSamples (p : LearnedProfile α) : Bool := 0 < p.samples

/-- The mean of `n + 1` values by the mean of the first `n` and the last one. -/
def extendMean (n mean x : α) : α := (mean * n + x) / (n + 1.0)

/-- The profile with one more design learned from. -/
def incorporate (p : LearnedProfile α) (d : Design α) : LearnedProfile α :=
  let extend := extendMean (Scalar.ofCount p.samples.toNat : α)
  let extent (mean : α) (x : Option α) : α := (x.map (extend mean)).getD mean
  { p with
    controlPoints := extend p.controlPoints (Scalar.ofCount d.controlPoints.length)
    length := extent p.length d.length?
    width := extent p.width d.width?
    hardpoints := extend p.hardpoints (Scalar.ofCount d.hardpoints.length)
    lights := extend p.lights (Scalar.ofCount d.lights.length)
    rooms := extend p.rooms (Scalar.ofCount d.rooms.length)
    samples := p.samples + 1 }

end LearnedProfile

end Shipwright
