import Shipwright.Ship.Assembly

/-!
# The standard pipeline

Every ship that is opened is assembled by ten stages: five generators, a chain
of four merges and an output. The chain takes the hull first and then turrets,
lights, rooms and features, so that their meshes are joined in this order.
-/

namespace Shipwright

/-- The nodes of the standard pipeline. -/
structure Pipeline where
  /-- Lofts the hull. -/
  hull : NodeId
  /-- Mounts the turrets. -/
  turrets : NodeId
  /-- Marks the lights. -/
  lights : NodeId
  /-- Boxes the rooms. -/
  rooms : NodeId
  /-- Attaches the features. -/
  features : NodeId
  /-- The chain of merges, hull side first. -/
  merges : NodeId × NodeId × NodeId × NodeId
  /-- Yields the mesh. -/
  output : NodeId
  deriving DecidableEq, Repr

namespace Pipeline

/-- The edges of the pipeline. -/
def edges (p : Pipeline) : List Edge :=
  let (m, n, o, q) := p.merges
  [ ⟨p.hull, 0, m, 0⟩, ⟨p.turrets, 0, m, 1⟩, ⟨m, 0, n, 0⟩, ⟨p.lights, 0, n, 1⟩,
    ⟨n, 0, o, 0⟩, ⟨p.rooms, 0, o, 1⟩, ⟨o, 0, q, 0⟩, ⟨p.features, 0, q, 1⟩,
    ⟨q, 0, p.output, 0⟩ ]

/-- The graph of the pipeline for a ring resolution, and its nodes. -/
def build {ν : Type} (name : String) (segments : UInt32) : Graph Stage ν × Pipeline :=
  let (g, hull) := (Graph.empty name).addNode .hullSpline
  let (g, _) := g.setProperty hull Stage.segmentsProperty (toString segments.toNat)
  let (g, turrets) := g.addNode .turretMount
  let (g, lights) := g.addNode .lightFixture
  let (g, rooms) := g.addNode .interiorVolume
  let (g, features) := g.addNode .visualAttachment
  let (g, m) := g.addNode .merge
  let (g, n) := g.addNode .merge
  let (g, o) := g.addNode .merge
  let (g, q) := g.addNode .merge
  let (g, output) := g.addNode .output
  let p : Pipeline := ⟨hull, turrets, lights, rooms, features, (m, n, o, q), output⟩
  (p.edges.foldl Graph.addEdge g, p)

end Pipeline

/-- The assembly with its graph replaced by the standard pipeline, and the nodes of that. -/
def Assembly.usePipeline {α : Type} (a : Assembly α) (segments : UInt32) :
    Assembly α × Pipeline :=
  let (graph, p) := Pipeline.build graphName segments
  ({ a with graph }, p)

end Shipwright
