import Shipwright.Proofs.Graph.Locality
import Shipwright.Proofs.Mesh.Shapes
import Shipwright.Proofs.Ship.Execution

/-!
# The parts a ship is assembled of

A stage contributes parts: the hull as a whole, or one shape per element; a merge has
the parts of its first source and then those of its second, and an output those of its
source. What a stage yields is its parts joined in this order, however the stages
share their sources, because it makes no difference where joining is begun.
-/

namespace Shipwright

namespace Graph

section Sources

variable {κ ν : Type} {g : Graph κ ν} {id source : NodeId} {slot : Nat}

/-- The node at the other end of the last edge into a slot. -/
def source? (g : Graph κ ν) (id : NodeId) (slot : Nat) : Option NodeId :=
  (g.slotEdges id slot).getLast?.map (·.fromNode)

/-- A source leads to its node. -/
theorem exists_edge_of_source? (h : g.source? id slot = some source) :
    ∃ e ∈ g.edges, e.fromNode = source ∧ e.toNode = id := by
  obtain ⟨e, hlast, hfrom⟩ := Option.map_eq_some_iff.mp h
  obtain ⟨he, hto⟩ := List.mem_filter.mp (List.mem_of_getLast? hlast)
  exact ⟨e, he, hfrom, (of_decide_eq_true hto).1⟩

/-- In an order that respects the edges a source comes before the node it leads to. -/
theorem idxOf_source_lt {order : List NodeId} (htop : Topological g.nodeIds g.edges order)
    (h : g.source? id slot = some source) : order.idxOf source < order.idxOf id := by
  obtain ⟨e, he, rfl, rfl⟩ := exists_edge_of_source? h
  exact htop.precedes e he

end Sources

/-- An edge that resolves leaves a stage by port 0, as that is the only one there is. -/
theorem Resolves.fromPort_eq_zero {ν : Type} {g : Graph Stage ν} {e : Edge} (h : g.Resolves e) :
    e.fromPort = 0 := by
  obtain ⟨source, _, _, _, _, _, output, _, houtput, _⟩ := h
  have hlt : e.fromPort.toNat < 1 := (List.getElem?_eq_some_iff.mp houtput).1
  exact UInt16.toNat.inj (Nat.lt_one_iff.mp hlt)

end Graph

variable {α : Type} [Trigonometric α]

namespace Stage

/-- The parts of a stage, given the parts that arrive at each of its slots. -/
def parts (s : Elements α) (n : Node Stage) (arriving : Nat → List (Mesh α)) : List (Mesh α) :=
  match n.kind with
  | .hullSpline => [Mesh.loft s.controlPoints.items (segments n)]
  | .turretMount => s.hardpoints.items.map fun h => .turret h.position h.direction h.size
  | .lightFixture => s.lights.items.map fun l => .marker l.position l.interior
  | .interiorVolume => s.rooms.items.map fun r => .room r.low r.high
  | .visualAttachment => s.features.items.map .wedge
  | .merge => arriving 0 ++ arriving 1
  | .output => arriving 0

variable {s : Elements α} {n : Node Stage} {arriving arriving' : Nat → List (Mesh α)}

/-- Every part has its vertices completely if the arriving parts have. -/
theorem whole_of_mem_parts (h : ∀ slot, ∀ m ∈ arriving slot, m.Whole) :
    ∀ m ∈ parts s n arriving, m.Whole := by
  unfold parts
  split
  · exact fun m hm => List.mem_singleton.mp hm ▸ Mesh.whole_loft
  · exact List.forall_mem_map.mpr fun _ _ => (Mesh.wellFormed_turret ..).whole
  · exact List.forall_mem_map.mpr fun _ _ => (Mesh.wellFormed_marker ..).whole
  · exact List.forall_mem_map.mpr fun _ _ => (Mesh.wellFormed_room ..).whole
  · exact List.forall_mem_map.mpr fun _ _ => (Mesh.wellFormed_wedge ..).whole
  · exact fun m hm => (List.mem_append.mp hm).elim (h 0 m) (h 1 m)
  · exact h 0

/-- What arrives at a slot is among the parts. -/
theorem vertexTotal_arriving_le {slot : Nat} (hslot : slot < n.inputCount) :
    Mesh.vertexTotal (arriving slot) ≤ Mesh.vertexTotal (parts s n arriving) := by
  obtain ⟨id, kind, properties⟩ := n
  cases kind
  case merge =>
    obtain rfl | rfl : slot = 0 ∨ slot = 1 := by
      change slot < 2 at hslot
      omega
    all_goals simp [parts]
  case output =>
    obtain rfl : slot = 0 := Nat.lt_one_iff.mp hslot
    exact Nat.le_refl _
  all_goals exact absurd hslot (Nat.not_lt_zero slot)

/-- A stage whose inputs are arriving parts, joined, yields its own parts, joined. -/
theorem mesh_eq_join_parts (hwhole : ∀ slot, ∀ m ∈ arriving slot, m.Whole)
    (hfit : Mesh.vertexTotal (parts s n arriving) < 2 ^ 32) :
    mesh s n ((List.range n.inputCount).map fun slot => .join (arriving slot)) =
      .join (parts s n arriving) := by
  obtain ⟨id, kind, properties⟩ := n
  cases kind
  case hullSpline => exact (Mesh.join_singleton _).symm
  case merge => exact (Mesh.join_append (hwhole 0) (hwhole 1) hfit).symm
  all_goals rfl

end Stage

namespace Graph

variable {g : Graph Stage (Mesh α)} {s : Elements α}

/-- The parts of a node of a compiled ship graph: a source counts as such only where it comes
before the node in the order, which edges of a compiled graph see to. -/
def parts (g : Graph Stage (Mesh α)) (s : Elements α) (id : NodeId) : List (Mesh α) :=
  match g.node? id with
  | none => []
  | some n => Stage.parts s n fun slot =>
    match g.source? id slot with
    | none => []
    | some source =>
      if g.order.idxOf source < g.order.idxOf id then g.parts s source else []
termination_by g.order.idxOf id

/-- The parts that arrive at a slot of a node. -/
def arriving (g : Graph Stage (Mesh α)) (s : Elements α) (id : NodeId) (slot : Nat) :
    List (Mesh α) :=
  ((g.source? id slot).map (g.parts s)).getD []

/-- The parts of a node are those of its stage, given the parts of its sources. -/
theorem parts_eq (htop : Topological g.nodeIds g.edges g.order) {n : Node Stage}
    (hn : n ∈ g.nodes) : g.parts s n.id = Stage.parts s n (g.arriving s n.id) := by
  have hnode : g.node? n.id = some n := node?_eq_some_iff.mpr ⟨hn, rfl⟩
  rw [parts, hnode]
  dsimp only
  congr 1
  funext slot
  unfold arriving
  cases hsource : g.source? n.id slot with
  | none => rfl
  | some source => exact if_pos (idxOf_source_lt htop hsource)

/-- Every part of a node has its vertices completely. -/
theorem whole_of_mem_parts (g : Graph Stage (Mesh α)) (s : Elements α) (id : NodeId) :
    ∀ m ∈ g.parts s id, m.Whole := by
  induction hplace : g.order.idxOf id using Nat.strong_induction_on generalizing id with
  | h place ih =>
    subst hplace
    unfold parts
    split
    · exact fun _ hm => nomatch hm
    · apply Stage.whole_of_mem_parts
      intro slot
      split
      · exact fun _ hm => nomatch hm
      · split
        · rename_i source _ hbefore
          exact ih _ hbefore source rfl
        · exact fun _ hm => nomatch hm

/-- Every part that arrives at a node has its vertices completely. -/
theorem whole_of_mem_arriving (g : Graph Stage (Mesh α)) (s : Elements α) (id : NodeId)
    (slot : Nat) : ∀ m ∈ g.arriving s id slot, m.Whole := by
  unfold arriving
  cases g.source? id slot with
  | none => exact fun _ hm => nomatch hm
  | some source => exact g.whole_of_mem_parts s source

variable {outputs : OutputCache (Mesh α)}

/-- Where the equations of a ship graph are solved and its edges resolve, a slot gets what is cached
for the source of the last edge into it, and the empty mesh where there is no edge. -/
theorem Solves.lastCarried_slotEdges (h : g.Solves (Stage.evaluator s) outputs)
    (hresolves : ∀ e ∈ g.edges, g.Resolves e) (id : NodeId) (slot : Nat) :
    lastCarried outputs (g.slotEdges id slot) =
      ((g.source? id slot).bind fun source => outputs.get? (source, 0)).getD default := by
  have hedge : ∀ e ∈ g.slotEdges id slot, g.Resolves e := fun e he =>
    hresolves e (List.mem_filter.mp he).1
  have hall : (g.slotEdges id slot).filter (fun e => (carried outputs e).isSome) =
      g.slotEdges id slot := by
    refine List.filter_eq_self.mpr fun e he => ?_
    exact h.isSome_get?_iff.mpr ⟨(hedge e he).ends_mem.1, (hedge e he).fromPort_eq_zero⟩
  unfold lastCarried source?
  rw [hall]
  cases hlast : (g.slotEdges id slot).getLast? with
  | none => rfl
  | some e =>
    rw [Option.bind_some, Option.map_some, Option.bind_some, carried,
      (hedge e (List.mem_of_getLast? hlast)).fromPort_eq_zero]

/-- Where the equations of a compiled ship graph are solved, every node whose parts can be counted
has its parts joined. The parts of its sources are among them, and the sources come first in the
order. -/
theorem Solves.get?_eq_join_parts (h : g.Solves (Stage.evaluator s) outputs)
    (hschedule : g.schedule = .ok g.order) {n : Node Stage} (hn : n ∈ g.nodes)
    (hfit : Mesh.vertexTotal (g.parts s n.id) < 2 ^ 32) :
    outputs.get? (n.id, 0) = some (.join (g.parts s n.id)) := by
  have htop := topological_of_schedule hschedule
  have hresolves := (schedule_eq_ok_iff.mp hschedule).1
  induction hplace : g.order.idxOf n.id using Nat.strong_induction_on generalizing n with
  | h place ih =>
    subst hplace
    rw [parts_eq htop hn] at hfit ⊢
    have hslot : ∀ slot < n.inputCount,
        lastCarried outputs (g.slotEdges n.id slot) = .join (g.arriving s n.id slot) := by
      intro slot hslot
      have hle : Mesh.vertexTotal (g.arriving s n.id slot) ≤
          Mesh.vertexTotal (Stage.parts s n (g.arriving s n.id)) :=
        Stage.vertexTotal_arriving_le hslot
      rw [h.lastCarried_slotEdges hresolves]
      unfold arriving at hle ⊢
      cases hsource : g.source? n.id slot with
      | none => rfl
      | some source =>
        obtain ⟨e, he, rfl, _⟩ := exists_edge_of_source? hsource
        obtain ⟨m, hm, hid⟩ := List.mem_map.mp (hresolves e he).ends_mem.1
        rw [hsource] at hle
        rw [← hid] at hsource hle ⊢
        have hjoined := ih _ (idxOf_source_lt htop hsource) hm (Nat.lt_of_le_of_lt hle hfit) rfl
        rw [Option.bind_some, hjoined]
        rfl
    rw [h.get?_of_mem hn, inputsOf_eq_map, List.map_congr_left fun slot hmem =>
      hslot slot (List.mem_range.mp hmem), Stage.mesh_eq_join_parts
        (g.whole_of_mem_arriving s n.id) hfit]

end Graph

namespace Assembly

variable {a : Assembly α}

/-- A ship that is marked as compiled executes, and then has one mesh for each of its nodes and
nothing else: the parts of the node joined in order, provided that their vertices can be numbered.
The parts are those of the stages: what is placed on the ship, and at a merge the parts of the one
source before those of the other. The mesh of the ship is that of its first output, if any. -/
theorem execute_eq_join_parts (h : a.Reachable) (hc : a.compiled = true) :
    (∀ n ∈ a.graph.nodes, a.graph.parts a.elements n.id =
      Stage.parts a.elements n (a.graph.arriving a.elements n.id)) ∧
    ∃ b, a.execute = (b, .ok ()) ∧
      (∀ id port, (b.graph.output? id port).isSome = true ↔
        id ∈ a.graph.nodeIds ∧ port = 0) ∧
      (∀ n ∈ a.graph.nodes, Mesh.vertexTotal (a.graph.parts a.elements n.id) < 2 ^ 32 →
        b.graph.output? n.id 0 = some (.join (a.graph.parts a.elements n.id))) ∧
      (b.output? = none ↔ ∀ n ∈ a.graph.nodes, n.kind ≠ .output) ∧
      ∀ before n after, a.graph.nodes = before ++ n :: after → n.kind = .output →
        (∀ m ∈ before, m.kind ≠ .output) → b.output? = b.graph.output? n.id 0 := by
  have hschedule := h.graph.fresh hc
  obtain ⟨outputs, hexecute, hsolves⟩ := h.exists_execute hc
  refine ⟨fun n hn => Graph.parts_eq (Graph.topological_of_schedule hschedule) hn, _, hexecute,
    fun id port => hsolves.isSome_get?_iff,
    fun n hn hfit => hsolves.get?_eq_join_parts hschedule hn hfit, output?_eq_none_iff ?_,
    fun before n after hnodes hn hbefore => output?_of_first hnodes hn hbefore⟩
  intro n hn hnone
  exact nomatch hnone.symm.trans (hsolves.get?_of_mem hn)

/-- A ship whose one light goes into both slots of a merge; that a hull goes into the second slot,
too, makes no difference, since its edge is older. -/
def lightTwice : Assembly Single :=
  empty.applyAll [.addNode .lightFixture, .addNode .hullSpline, .addNode .merge, .addNode .output,
    .addEdge ⟨⟨2⟩, 0, ⟨3⟩, 1⟩, .addEdge ⟨⟨1⟩, 0, ⟨3⟩, 1⟩, .addEdge ⟨⟨1⟩, 0, ⟨3⟩, 0⟩,
    .addEdge ⟨⟨3⟩, 0, ⟨4⟩, 0⟩, .add (.light default), .compile]

/-- The mesh of that ship is the marker of its light, joined to itself. -/
theorem execute_lightTwice_eq_join_parts :
    lightTwice.Reachable ∧ lightTwice.compiled = true ∧
    ∃ b, lightTwice.execute = (b, .ok ()) ∧ b.output? =
      some (.join (List.replicate 2 (.marker (default : Light Single).position
        (default : Light Single).interior))) := by
  have hreachable : lightTwice.Reachable := ⟨_, rfl⟩
  have hcompiled : lightTwice.compiled = true := rfl
  obtain ⟨hparts, b, hb, _, hjoined, _, hfirst⟩ := execute_eq_join_parts hreachable hcompiled
  have hmerge : Node.ofKind ⟨3⟩ .merge ∈ lightTwice.graph.nodes := .tail _ (.tail _ (.head _))
  have houtput : Node.ofKind ⟨4⟩ .output ∈ lightTwice.graph.nodes :=
    .tail _ (.tail _ (.tail _ (.head _)))
  have hpassed : lightTwice.graph.parts lightTwice.elements ⟨4⟩ =
      lightTwice.graph.parts lightTwice.elements ⟨3⟩ := hparts _ houtput
  have hmerged : lightTwice.graph.parts lightTwice.elements ⟨3⟩ =
      lightTwice.graph.parts lightTwice.elements ⟨1⟩ ++
        lightTwice.graph.parts lightTwice.elements ⟨1⟩ := hparts _ hmerge
  have hmarker : lightTwice.graph.parts lightTwice.elements ⟨1⟩ =
      [.marker (default : Light Single).position (default : Light Single).interior] :=
    hparts (.ofKind ⟨1⟩ .lightFixture) (.head _)
  rw [hmarker] at hmerged
  rw [hmerged] at hpassed
  have hfit : Mesh.vertexTotal (lightTwice.graph.parts lightTwice.elements ⟨4⟩) < 2 ^ 32 := by
    rw [hpassed, Mesh.vertexTotal_append, Mesh.vertexTotal_singleton, Mesh.vertexCount_marker]
    decide
  refine ⟨hreachable, hcompiled, b, hb, ?_⟩
  rw [hfirst [.ofKind ⟨1⟩ .lightFixture, .ofKind ⟨2⟩ .hullSpline, .ofKind ⟨3⟩ .merge]
    (.ofKind ⟨4⟩ .output) [] rfl rfl (by decide)]
  exact (hjoined _ houtput hfit).trans (congrArg (fun parts => some (Mesh.join parts)) hpassed)

end Assembly

end Shipwright
