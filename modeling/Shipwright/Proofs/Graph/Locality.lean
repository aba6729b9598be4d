import Shipwright.Proofs.Graph.Dataflow

/-!
# Execution is local

What is cached for a node depends on the nodes from which a path leads to it, and
on nothing else. Two graphs that treat these nodes alike may differ in all the
rest and run in different orders; the node has the same values in both. The proof
goes up the cone of the node, not along the runs: both caches solve the equations
of their graphs, and within the cone the equations are the same.
-/

namespace Shipwright

open Relation

namespace Graph

variable {κ ν : Type} [NodeFamily κ]

/-- An edge into a node that resolves enters one of the node's slots. -/
theorem Resolves.toPort_lt_inputCount {g : Graph κ ν} {e : Edge} {n : Node κ}
    (h : g.Resolves e) (hn : g.node? e.toNode = some n) : e.toPort.toNat < n.inputCount := by
  obtain ⟨_, _, target, ht, _, htid, _, input, _, hi, _⟩ := h
  have htarget : g.node? e.toNode = some target := node?_eq_some_iff.mpr ⟨ht, htid⟩
  obtain rfl : target = n := Option.some.inj (htarget.symm.trans hn)
  exact (List.getElem?_eq_some_iff.mp hi).1

/-- The edges of a fresh graph that is marked as compiled resolve. -/
theorem Fresh.resolves {g : Graph κ ν} (h : g.Fresh) (hc : g.compiled = true) {e : Edge}
    (he : e ∈ g.edges) : g.Resolves e :=
  (schedule_eq_ok_iff.mp (h hc)).1 e he

/-- Nodes of one kind have the same number of slots. -/
theorem inputCount_eq_of_kind_eq {n₁ n₂ : Node κ} (h : n₁.kind = n₂.kind) :
    n₁.inputCount = n₂.inputCount := by
  rw [Node.inputCount, h, Node.inputCount]

/-- Two graphs treat a node alike: it has one kind in both, the same edges lead into each of its
slots in the same order, and the two evaluators make the same of its inputs. What its properties
say matters only as far as the evaluators read them. -/
def Alike (g₁ g₂ : Graph κ ν) (evaluate₁ evaluate₂ : Evaluator κ ν) (id : NodeId) : Prop :=
  ∃ n₁ n₂, g₁.node? id = some n₁ ∧ g₂.node? id = some n₂ ∧ n₁.kind = n₂.kind ∧
    (∀ slot < n₁.inputCount, g₁.slotEdges id slot = g₂.slotEdges id slot) ∧
    ∀ inputs port, (evaluate₁ n₁ inputs).get? port = (evaluate₂ n₂ inputs).get? port

variable {g₁ g₂ : Graph κ ν} {evaluate₁ evaluate₂ : Evaluator κ ν} {id : NodeId}

/-- Two graphs treat a node alike in either order. -/
theorem Alike.symm (h : Alike g₁ g₂ evaluate₁ evaluate₂ id) :
    Alike g₂ g₁ evaluate₂ evaluate₁ id := by
  obtain ⟨n₁, n₂, hn₁, hn₂, hkind, hslots, hevaluate⟩ := h
  have hcount := inputCount_eq_of_kind_eq hkind
  refine ⟨n₂, n₁, hn₂, hn₁, hkind.symm, ?_, ?_⟩
  · intro slot hslot
    exact (hslots slot (hcount.symm ▸ hslot)).symm
  · intro inputs port
    exact (hevaluate inputs port).symm

/-- An edge into a node that is treated alike is an edge of the other graph, too. -/
theorem Alike.edge_mem {e : Edge} (h : Alike g₁ g₂ evaluate₁ evaluate₂ e.toNode)
    (he : e ∈ g₁.edges) (hresolves : g₁.Resolves e) : e ∈ g₂.edges := by
  obtain ⟨n₁, n₂, hn₁, _, _, hslots, _⟩ := h
  have hmem : e ∈ g₁.slotEdges e.toNode e.toPort.toNat := List.mem_filter.mpr ⟨he, by simp⟩
  rw [hslots _ (hresolves.toPort_lt_inputCount hn₁)] at hmem
  exact (List.mem_filter.mp hmem).1

/-- Where every node from which a path leads to a node is treated alike, the same paths lead to the
node in both graphs. -/
theorem path_iff_of_alike {n : NodeId} (hresolves₁ : ∀ e ∈ g₁.edges, g₁.Resolves e)
    (hresolves₂ : ∀ e ∈ g₂.edges, g₂.Resolves e)
    (halike : ∀ m, ReflTransGen (Leads g₁.edges) m n → Alike g₁ g₂ evaluate₁ evaluate₂ m)
    (m : NodeId) :
    ReflTransGen (Leads g₁.edges) m n ↔ ReflTransGen (Leads g₂.edges) m n := by
  constructor
  · apply path_of_edges_mem
    intro e he hpath₁ _
    exact (halike _ hpath₁).edge_mem he (hresolves₁ e he)
  · apply path_of_edges_mem
    intro e he _ hpath₁
    exact (halike _ hpath₁).symm.edge_mem he (hresolves₂ e he)

variable [Inhabited ν]

/-- A node that is treated alike yields the same from caches that agree on what its edges carry. -/
theorem Alike.yielded_eq {cache₁ cache₂ : OutputCache ν}
    (h : Alike g₁ g₂ evaluate₁ evaluate₂ id)
    (hcarried : ∀ e ∈ g₁.edges, e.toNode = id → carried cache₁ e = carried cache₂ e)
    (port : PortIndex) :
    g₁.yielded evaluate₁ cache₁ id port = g₂.yielded evaluate₂ cache₂ id port := by
  obtain ⟨n₁, n₂, hn₁, hn₂, hkind, hslots, hevaluate⟩ := h
  obtain ⟨_, hid₁⟩ := node?_eq_some_iff.mp hn₁
  obtain ⟨_, hid₂⟩ := node?_eq_some_iff.mp hn₂
  have hcount := inputCount_eq_of_kind_eq hkind
  have hinputs : g₁.inputsOf cache₁ n₁ = g₂.inputsOf cache₂ n₂ := by
    rw [inputsOf_eq_map, inputsOf_eq_map, hid₁, hid₂, ← hcount]
    apply List.map_congr_left
    intro slot hslot
    rw [← hslots slot (List.mem_range.mp hslot)]
    apply lastCarried_congr
    intro e he
    obtain ⟨he, hto⟩ := List.mem_filter.mp he
    exact hcarried e he (of_decide_eq_true hto).1
  rw [yielded, yielded, hn₁, hn₂, Option.bind_some, Option.bind_some, hinputs, hevaluate]

/-- Caches that solve the equations of two graphs agree on the nodes from which a path leads to a
node, if the graphs treat these alike. -/
theorem Solves.get?_eq_of_alike {outputs₁ outputs₂ : OutputCache ν} {n : NodeId}
    (h₁ : g₁.Solves evaluate₁ outputs₁) (h₂ : g₂.Solves evaluate₂ outputs₂)
    {order : List NodeId} (htop : Topological g₁.nodeIds g₁.edges order)
    (halike : ∀ m, ReflTransGen (Leads g₁.edges) m n → Alike g₁ g₂ evaluate₁ evaluate₂ m)
    {m : NodeId} (hm : ReflTransGen (Leads g₁.edges) m n) (port : PortIndex) :
    outputs₁.get? (m, port) = outputs₂.get? (m, port) := by
  refine h₁.get?_eq h₂ htop (P := fun m => ReflTransGen (Leads g₁.edges) m n) ?_ ?_ hm port
  · exact fun e he hto => .head ⟨e, he, rfl, rfl⟩ hto
  · exact fun m hm hcarried => (halike m hm).yielded_eq hcarried

/-- Two compiled graphs that treat a node alike, and every node from which a path leads to it, have
the same paths to the node, and executing them succeeds and caches the same values for it. -/
theorem output?_execute_eq_of_alike (h₁ : g₁.Reachable) (h₂ : g₂.Reachable)
    (hc₁ : g₁.compiled = true) (hc₂ : g₂.compiled = true) {n : NodeId}
    (halike : ∀ m, ReflTransGen (Leads g₁.edges) m n → Alike g₁ g₂ evaluate₁ evaluate₂ m) :
    (∀ m, ReflTransGen (Leads g₁.edges) m n ↔ ReflTransGen (Leads g₂.edges) m n) ∧
    (g₁.execute evaluate₁).2 = .ok () ∧ (g₂.execute evaluate₂).2 = .ok () ∧
    ∀ port, (g₁.execute evaluate₁).1.output? n port = (g₂.execute evaluate₂).1.output? n port := by
  obtain ⟨outputs₁, hexecute₁, hsolves₁⟩ := h₁.fresh.exists_execute_solves hc₁ evaluate₁
  obtain ⟨outputs₂, hexecute₂, hsolves₂⟩ := h₂.fresh.exists_execute_solves hc₂ evaluate₂
  have hresolves₁ : ∀ e ∈ g₁.edges, g₁.Resolves e := fun _ he => h₁.fresh.resolves hc₁ he
  have hresolves₂ : ∀ e ∈ g₂.edges, g₂.Resolves e := fun _ he => h₂.fresh.resolves hc₂ he
  have htop := topological_of_schedule (h₁.fresh hc₁)
  rw [hexecute₁, hexecute₂]
  refine ⟨path_iff_of_alike hresolves₁ hresolves₂ halike, rfl, rfl, fun port => ?_⟩
  exact hsolves₁.get?_eq_of_alike hsolves₂ htop halike .refl port

/-- A sink behind a sum, and what the sink passes on, do not change the sum. -/
theorem output?_execute_eq_behind_sink :
    (∀ m, ReflTransGen (Leads (built "Twice" Calc.twice).edges) m ⟨3⟩ →
      Alike (built "Twice" Calc.twice) (built "Double" Calc.twiceIntoSink)
        Calc.evaluate Calc.evaluateLeaky m) ∧
    ∀ port,
      ((built "Twice" Calc.twice).execute Calc.evaluate).1.output? ⟨3⟩ port =
        ((built "Double" Calc.twiceIntoSink).execute Calc.evaluateLeaky).1.output? ⟨3⟩ port := by
  have hcone : ∀ m, ReflTransGen (Leads (built "Twice" Calc.twice).edges) m ⟨3⟩ →
      m ∈ [(⟨1⟩ : NodeId), ⟨2⟩, ⟨3⟩] := by
    intro m hm
    induction hm using ReflTransGen.head_induction_on with
    | refl => decide
    | head hac _ _ =>
      obtain ⟨e, he, rfl, _⟩ := hac
      have hsources : ∀ e ∈ (built "Twice" Calc.twice).edges,
          e.fromNode ∈ [(⟨1⟩ : NodeId), ⟨2⟩, ⟨3⟩] := by decide
      exact hsources e he
  have halike : ∀ m, ReflTransGen (Leads (built "Twice" Calc.twice).edges) m ⟨3⟩ →
      Alike (built "Twice" Calc.twice) (built "Double" Calc.twiceIntoSink)
        Calc.evaluate Calc.evaluateLeaky m := by
    intro m hm
    have hm := hcone m hm
    simp only [List.mem_cons, List.not_mem_nil, or_false] at hm
    rcases hm with rfl | rfl | rfl
    all_goals exact ⟨_, _, rfl, rfl, rfl, by decide, fun _ _ => rfl⟩
  have hcompiled₁ : (built "Twice" Calc.twice).compiled = true := rfl
  have hcompiled₂ : (built "Double" Calc.twiceIntoSink).compiled = true := rfl
  exact ⟨halike, (output?_execute_eq_of_alike ⟨_, _, rfl⟩ ⟨_, _, rfl⟩
    hcompiled₁ hcompiled₂ halike).2.2.2⟩

end Graph

end Shipwright
