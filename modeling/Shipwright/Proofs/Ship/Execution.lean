import Shipwright.Proofs.Graph.Superseded
import Shipwright.Proofs.Ship.Operation

/-!
# What the execution of a ship caches

Every stage yields one mesh, on port 0. So a ship that is marked as compiled executes,
and afterwards the cache has exactly one mesh for each stage: the one that the stage
makes of the meshes that arrive at its slots. And since no stage is ever silent, the last
edge into a slot is the one that fills it.
-/

namespace Shipwright

namespace Assembly

section Output

variable {α : Type} {a : Assembly α}

/-- The mesh of a ship is that of the first output among its nodes. -/
theorem output?_of_first {before after : List (Node Stage)} {n : Node Stage}
    (hnodes : a.graph.nodes = before ++ n :: after) (hn : n.kind = .output)
    (hbefore : ∀ m ∈ before, m.kind ≠ .output) : a.output? = a.graph.output? n.id 0 := by
  have hfirst : a.graph.nodes.find? (·.kind = .output) = some n := by
    rw [hnodes, List.find?_append, List.find?_eq_none.mpr (by simpa using hbefore)]
    simp [hn]
  rw [output?, hfirst, Option.bind_some]

/-- Where every node has a mesh, a ship has none just if no node of it is an output. -/
theorem output?_eq_none_iff (h : ∀ n ∈ a.graph.nodes, a.graph.output? n.id 0 ≠ none) :
    a.output? = none ↔ ∀ n ∈ a.graph.nodes, n.kind ≠ .output := by
  have hnone : a.output? = none ↔ a.graph.nodes.find? (·.kind = .output) = none := by
    unfold output?
    cases hfind : a.graph.nodes.find? (·.kind = .output) with
    | none => simp
    | some n => simpa using h n (List.mem_of_find?_eq_some hfind)
  rw [hnone, List.find?_eq_none]
  simp only [decide_eq_true_eq, ne_eq]

end Output

end Assembly

variable {α : Type} [Trigonometric α]

/-- A stage yields its mesh on port 0 and nothing on any other. -/
theorem Stage.get?_evaluator (s : Elements α) (n : Node Stage) (inputs : List (Mesh α))
    (port : PortIndex) :
    (evaluator s n inputs).get? port = if port = 0 then some (mesh s n inputs) else none := by
  rw [evaluator, NodeOutput.single, OrderedMap.singleton, OrderedMap.get?_set,
    OrderedMap.get?_empty]

/-- A stage leaves no port without a mesh. -/
theorem Stage.evaluator_total (s : Elements α) : (evaluator s).Total := by
  intro n inputs port hport
  have hzero : port = 0 := UInt16.toNat_inj.mp (Nat.lt_one_iff.mp hport)
  rw [get?_evaluator, if_pos hzero, Option.isSome_some]

namespace Graph

variable {g : Graph Stage (Mesh α)} {s : Elements α} {outputs : OutputCache (Mesh α)}

/-- Where the equations of a ship graph are solved, each stage has the mesh it makes of its
inputs. -/
theorem Solves.get?_of_mem (h : g.Solves (Stage.evaluator s) outputs) {n : Node Stage}
    (hn : n ∈ g.nodes) :
    outputs.get? (n.id, 0) = some (Stage.mesh s n (g.inputsOf outputs n)) := by
  rw [h, yielded, node?_eq_some_iff.mpr ⟨hn, rfl⟩, Option.bind_some, Stage.get?_evaluator,
    if_pos rfl]

/-- Where the equations of a ship graph are solved, something is cached on port 0 of each stage and
nowhere else. -/
theorem Solves.isSome_get?_iff (h : g.Solves (Stage.evaluator s) outputs) {id : NodeId}
    {port : PortIndex} :
    (outputs.get? (id, port)).isSome = true ↔ id ∈ g.nodeIds ∧ port = 0 := by
  rw [h, yielded, ← exists_node?_iff]
  cases g.node? id with
  | none => simp
  | some n =>
    rw [Option.bind_some, Stage.get?_evaluator]
    split <;> simp_all

end Graph

namespace Assembly

variable {a b : Assembly α}

/-- A ship with a fresh graph that is marked as compiled executes, which solves the equations of its
graph and changes nothing else. -/
theorem exists_execute_of_fresh (h : a.graph.Fresh) (hc : a.compiled = true) :
    ∃ outputs, a.execute = ({ a with graph := { a.graph with outputs } }, .ok ()) ∧
      a.graph.Solves (Stage.evaluator a.elements) outputs := by
  obtain ⟨outputs, hexecute, hsolves⟩ := h.exists_execute_solves hc (Stage.evaluator a.elements)
  exact ⟨outputs, by simp only [execute, hexecute], hsolves⟩

/-- The graph of a reachable ship is fresh. -/
theorem Reachable.exists_execute (h : a.Reachable) (hc : a.compiled = true) :
    ∃ outputs, a.execute = ({ a with graph := { a.graph with outputs } }, .ok ()) ∧
      a.graph.Solves (Stage.evaluator a.elements) outputs :=
  exists_execute_of_fresh h.graph.fresh hc

/-- On a ship only the last edge into each slot matters. -/
theorem computes_lastIntoSlots (h : a.graph.compile.2 = .ok ()) :
    ∃ outputs, a.graph.Computes (Stage.evaluator a.elements) outputs ∧
      (a.graph.withEdges (lastIntoSlots a.graph.edges)).Computes (Stage.evaluator a.elements)
        outputs :=
  Graph.computes_lastIntoSlots h (Stage.evaluator_total a.elements)

/-- Only a ship that is marked as compiled executes. -/
theorem compiled_of_execute (h : a.execute = (b, .ok ())) : a.compiled = true := by
  cases hc : a.compiled with
  | true => rfl
  | false =>
    have herror : a.execute.2 = .error .notCompiled := by
      have hc : a.graph.compiled = false := hc
      simp [execute, Graph.execute, hc]
    rw [h] at herror
    cases herror

end Assembly

end Shipwright
