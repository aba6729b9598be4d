import Shipwright.Proofs.Graph.Property
import Shipwright.Proofs.Ship.Parts
import Shipwright.Proofs.Ship.Recompilation

/-!
# The standard pipeline assembles the whole ship

The ten stages of the pipeline are wired upwards from generators to output, so that
their graph compiles whatever is placed on the ship. Followed backwards from the output
the merges take the parts in one fixed order: the hull, the mounts, the markers, the
rooms and the wedges. As long as nobody touches the stages this is the ship's mesh.
-/

namespace Shipwright

/-- An edge of a ship graph resolves if its ends are nodes, it leaves by port 0, and it enters a
slot of its target: all that flows are meshes. -/
theorem Graph.resolves_of_slot {ν : Type} {g : Graph Stage ν} {e : Edge}
    {source target : Node Stage} (hsource : source ∈ g.nodes) (htarget : target ∈ g.nodes)
    (hfrom : source.id = e.fromNode) (hto : target.id = e.toNode) (hport : e.fromPort = 0)
    (hslot : e.toPort.toNat < target.inputCount) : g.Resolves e := by
  have hmesh : ∀ kind : Stage, ∀ port ∈ Stage.inputs kind, port.type = .mesh := by
    intro kind
    cases kind <;> decide
  have hinput := List.getElem_mem hslot
  refine ⟨source, hsource, target, htarget, hfrom, hto, ⟨"Mesh", .mesh⟩, _, ?_,
    List.getElem?_eq_getElem hslot, .inr (.inr (hmesh _ _ hinput).symm)⟩
  rw [hport]
  rfl

namespace Pipeline

/-- The nodes of the standard pipeline: the generators, the merges and the output. -/
def stages (segments : UInt32) : List (Node Stage) :=
  [ (Node.ofKind ⟨1⟩ .hullSpline).setProperty Stage.segmentsProperty (toString segments.toNat),
    .ofKind ⟨2⟩ .turretMount, .ofKind ⟨3⟩ .lightFixture, .ofKind ⟨4⟩ .interiorVolume,
    .ofKind ⟨5⟩ .visualAttachment, .ofKind ⟨6⟩ .merge, .ofKind ⟨7⟩ .merge, .ofKind ⟨8⟩ .merge,
    .ofKind ⟨9⟩ .merge, .ofKind ⟨10⟩ .output ]

/-- The edges of the standard pipeline. -/
def wires : List Edge :=
  [ ⟨⟨1⟩, 0, ⟨6⟩, 0⟩, ⟨⟨2⟩, 0, ⟨6⟩, 1⟩, ⟨⟨6⟩, 0, ⟨7⟩, 0⟩, ⟨⟨3⟩, 0, ⟨7⟩, 1⟩, ⟨⟨7⟩, 0, ⟨8⟩, 0⟩,
    ⟨⟨4⟩, 0, ⟨8⟩, 1⟩, ⟨⟨8⟩, 0, ⟨9⟩, 0⟩, ⟨⟨5⟩, 0, ⟨9⟩, 1⟩, ⟨⟨9⟩, 0, ⟨10⟩, 0⟩ ]

/-- A graph has the nodes and edges of the standard pipeline. -/
structure Laid {ν : Type} (segments : UInt32) (g : Graph Stage ν) : Prop where
  /-- The nodes are those of the pipeline. -/
  nodes : g.nodes = stages segments
  /-- The edges are those of the pipeline. -/
  edges : g.edges = wires

/-- The pipeline is laid as it is built. -/
theorem laid_build {ν : Type} (name : String) (segments : UInt32) :
    Laid segments (build name segments : Graph Stage ν × Pipeline).1 := by
  constructor
  · simp [build, stages, Pipeline.edges, Graph.addEdge, Graph.addNode, Graph.setProperty,
      Graph.setPropertyOf, Graph.node?, Graph.empty, OrderedMap.put, Node.ofKind, Node.setProperty]
  · simp [build, wires, Pipeline.edges, Graph.addEdge, Graph.addNode, Graph.setProperty,
      Graph.setPropertyOf, Graph.node?, Graph.empty, OrderedMap.put, Node.ofKind, Node.setProperty]

variable {ν : Type} {segments : UInt32} {g : Graph Stage ν}

/-- The edges of the pipeline resolve. -/
theorem Laid.resolves (h : Laid segments g) : ∀ e ∈ g.edges, g.Resolves e := by
  have hwire : ∀ e ∈ wires, ∃ source ∈ stages segments, ∃ target ∈ stages segments,
      source.id = e.fromNode ∧ target.id = e.toNode ∧ e.fromPort = 0 ∧
        e.toPort.toNat < target.inputCount := by
    simp [wires, stages, Node.ofKind, Node.inputCount, NodeFamily.inputs, Stage.inputs]
  intro e he
  rw [h.edges] at he
  obtain ⟨source, hsource, target, htarget, hfrom, hto, hport, hslot⟩ := hwire e he
  rw [← h.nodes] at hsource htarget
  exact Graph.resolves_of_slot hsource htarget hfrom hto hport hslot

/-- The pipeline has a schedule. -/
theorem Laid.exists_schedule (h : Laid segments g) : ∃ order, g.schedule = .ok order := by
  have hascends : ∀ e ∈ wires, e.fromNode.val.toNat < e.toNode.val.toNat := by decide
  have hacyclic : Acyclic g.edges := acyclic_of_rank (·.val.toNat) (h.edges ▸ hascends)
  exact ⟨_, Graph.schedule_eq_ok_iff.mpr ⟨h.resolves, hacyclic, rfl⟩⟩

end Pipeline

variable {α : Type} [Trigonometric α]

namespace Elements

/-- The parts of a ship for a ring resolution of the hull: the hull, the mounts, the markers, the
rooms and the wedges. -/
def parts (s : Elements α) (segments : Nat) : List (Mesh α) :=
  [Mesh.loft s.controlPoints.items segments] ++
    (s.hardpoints.items.map fun h => .turret h.position h.direction h.size) ++
    (s.lights.items.map fun l => .marker l.position l.interior) ++
    (s.rooms.items.map fun r => .room r.low r.high) ++
    s.features.items.map .wedge

variable (s : Elements α) (segments : Nat)

/-- The vertices of a ship, counted by what is placed on it. -/
theorem vertexTotal_parts :
    Mesh.vertexTotal (s.parts segments) =
      (if 2 ≤ s.controlPoints.size ∧ 3 ≤ segments then s.controlPoints.size * segments + 2 else 0) +
        13 * s.hardpoints.size + 6 * s.lights.size + 24 * s.rooms.size + 6 * s.features.size := by
  simp only [parts, Mesh.vertexTotal_append, Mesh.vertexTotal_singleton, Mesh.vertexCount_loft,
    Mesh.vertexTotal_map_of_const fun _ => Mesh.vertexCount_turret ..,
    Mesh.vertexTotal_map_of_const fun _ => Mesh.vertexCount_marker ..,
    Mesh.vertexTotal_map_of_const fun _ => Mesh.vertexCount_room ..,
    Mesh.vertexTotal_map_of_const fun _ => Mesh.vertexCount_wedge ..]
  rfl

/-- The triangles of a ship, counted by what is placed on it. -/
theorem triangleTotal_parts :
    Mesh.triangleTotal (s.parts segments) =
      (if 2 ≤ s.controlPoints.size ∧ 3 ≤ segments then 2 * s.controlPoints.size * segments else 0) +
        18 * s.hardpoints.size + 8 * s.lights.size + 12 * s.rooms.size + 8 * s.features.size := by
  simp only [parts, Mesh.triangleTotal_append, Mesh.triangleTotal_singleton,
    Mesh.triangleCount_loft,
    Mesh.triangleTotal_map_of_const fun _ => Mesh.triangleCount_turret ..,
    Mesh.triangleTotal_map_of_const fun _ => Mesh.triangleCount_marker ..,
    Mesh.triangleTotal_map_of_const fun _ => Mesh.triangleCount_room ..,
    Mesh.triangleTotal_map_of_const fun _ => Mesh.triangleCount_wedge ..]
  rfl

variable {s segments}

/-- Every part of a ship is well formed if the vertices of the hull can be numbered. -/
theorem wellFormed_of_mem_parts
    (h : (Mesh.loft s.controlPoints.items segments).vertexCount < 2 ^ 32) :
    ∀ m ∈ s.parts segments, m.WellFormed := by
  intro m hm
  simp only [parts, List.mem_append, List.mem_singleton, List.mem_map] at hm
  rcases hm with (((rfl | ⟨_, _, rfl⟩) | ⟨_, _, rfl⟩) | ⟨_, _, rfl⟩) | ⟨_, _, rfl⟩
  · exact Mesh.wellFormed_loft h
  · exact Mesh.wellFormed_turret ..
  · exact Mesh.wellFormed_marker ..
  · exact Mesh.wellFormed_room ..
  · exact Mesh.wellFormed_wedge ..

/-- Where all vertices of a ship can be numbered, those of its hull can be. -/
theorem vertexCount_loft_lt (h : Mesh.vertexTotal (s.parts segments) < 2 ^ 32) :
    (Mesh.loft s.controlPoints.items segments).vertexCount < 2 ^ 32 := by
  simp only [parts, Mesh.vertexTotal_append, Mesh.vertexTotal_singleton] at h
  omega

end Elements

namespace Pipeline

variable {segments : UInt32} {g : Graph Stage (Mesh α)}

/-- The ring resolution to which the hull node of the pipeline comes. -/
def resolution (segments : UInt32) : Nat :=
  Stage.segments ((Node.ofKind ⟨1⟩ .hullSpline).setProperty Stage.segmentsProperty
    (toString segments.toNat))

/-- The ring resolution is the number that was set, up to the largest signed 32-bit word; past it
the default stands for the number. -/
theorem resolution_eq_ite (segments : UInt32) :
    resolution segments =
      if segments.toNat < 2 ^ 31 then segments.toNat else Stage.defaultSegments := by
  have hset := Node.property?_setProperty (.ofKind ⟨1⟩ Stage.hullSpline) Stage.segmentsProperty
    (toString segments.toNat)
  have hparse := Node.parseProperty_of_toString hset (Int32.ofNat Stage.defaultSegments)
  rw [resolution, Stage.segments, hparse]
  by_cases h : segments.toNat < 2 ^ 31
  · have hint : (Int32.ofInt segments.toNat).toInt = segments.toNat :=
      Int32.toInt_ofInt_of_le (by omega) (by exact_mod_cast h)
    rw [if_pos h, if_pos h, hint, Int.toNat_natCast]
  · rw [if_neg h, if_neg h]
    rfl

/-- A number that is a signed 32-bit word is the ring resolution itself. -/
theorem resolution_eq (h : segments.toNat < 2 ^ 31) : resolution segments = segments.toNat := by
  rw [resolution_eq_ite, if_pos h]

/-- The node at the other end of the last edge of the pipeline into a slot. -/
def wired? (id : NodeId) (slot : Nat) : Option NodeId :=
  (wires.filter fun e => e.toNode = id ∧ e.toPort.toNat = slot).getLast?.map (·.fromNode)

/-- The parts that arrive at a slot of the pipeline are those of the node wired to it. -/
theorem Laid.arriving_eq (h : Laid segments g) (s : Elements α) {id source : NodeId} {slot : Nat}
    (hwired : wired? id slot = some source) : g.arriving s id slot = g.parts s source := by
  rw [wired?, ← h.edges] at hwired
  rw [Graph.arriving, Graph.source?, Graph.slotEdges, hwired]
  rfl

/-- The parts of the output of the pipeline are those of the ship. -/
theorem Laid.parts_output (h : Laid segments g) (hschedule : g.schedule = .ok g.order)
    (s : Elements α) : g.parts s ⟨10⟩ = s.parts (resolution segments) := by
  have htop := Graph.topological_of_schedule hschedule
  have hparts : ∀ n ∈ stages segments, g.parts s n.id = Stage.parts s n (g.arriving s n.id) :=
    fun n hn => Graph.parts_eq htop (h.nodes ▸ hn)
  have hmerge : ∀ {id a b : NodeId}, .ofKind id .merge ∈ stages segments →
      wired? id 0 = some a → wired? id 1 = some b →
        g.parts s id = g.parts s a ++ g.parts s b := by
    intro id a b hid ha hb
    rw [← h.arriving_eq s ha, ← h.arriving_eq s hb]
    exact hparts _ hid
  have hhull : g.parts s ⟨1⟩ = [.loft s.controlPoints.items (resolution segments)] :=
    hparts _ (.head _)
  have hturrets : g.parts s ⟨2⟩ =
      s.hardpoints.items.map fun h => .turret h.position h.direction h.size :=
    hparts (.ofKind ⟨2⟩ .turretMount) (by simp [stages])
  have hlights : g.parts s ⟨3⟩ = s.lights.items.map fun l => .marker l.position l.interior :=
    hparts (.ofKind ⟨3⟩ .lightFixture) (by simp [stages])
  have hrooms : g.parts s ⟨4⟩ = s.rooms.items.map fun r => .room r.low r.high :=
    hparts (.ofKind ⟨4⟩ .interiorVolume) (by simp [stages])
  have hfeatures : g.parts s ⟨5⟩ = s.features.items.map .wedge :=
    hparts (.ofKind ⟨5⟩ .visualAttachment) (by simp [stages])
  have hfirst : g.parts s ⟨6⟩ = g.parts s ⟨1⟩ ++ g.parts s ⟨2⟩ :=
    hmerge (by simp [stages]) rfl rfl
  have hsecond : g.parts s ⟨7⟩ = g.parts s ⟨6⟩ ++ g.parts s ⟨3⟩ :=
    hmerge (by simp [stages]) rfl rfl
  have hthird : g.parts s ⟨8⟩ = g.parts s ⟨7⟩ ++ g.parts s ⟨4⟩ :=
    hmerge (by simp [stages]) rfl rfl
  have hlast : g.parts s ⟨9⟩ = g.parts s ⟨8⟩ ++ g.parts s ⟨5⟩ :=
    hmerge (by simp [stages]) rfl rfl
  have houtput : g.parts s ⟨10⟩ = g.arriving s ⟨10⟩ 0 :=
    hparts (.ofKind ⟨10⟩ .output) (by simp [stages])
  have hpassed : g.arriving s ⟨10⟩ 0 = g.parts s ⟨9⟩ := h.arriving_eq s rfl
  rw [houtput, hpassed, hlast, hthird, hsecond, hfirst, hhull, hturrets,
    hlights, hrooms, hfeatures, Elements.parts]

end Pipeline

end Shipwright
