import Shipwright.Proofs.Graph.Operation

/-!
# The compiled flag tells the truth

An operation either clears the flag or leaves nodes, edges and order as they
were. So a graph that is marked as compiled has the very order that compiling it
would give, although the order itself outlives the changes that make it stale.
-/

namespace Shipwright

namespace Graph

variable {κ ν : Type} [NodeFamily κ]

/-- A graph that is marked as compiled has its schedule for an order. -/
def Fresh (g : Graph κ ν) : Prop := g.compiled = true → g.schedule = .ok g.order

/-- Compiling a fresh graph that is marked as compiled changes nothing. -/
theorem Fresh.compile_eq {g : Graph κ ν} (h : g.Fresh) (hc : g.compiled = true) :
    g.compile = (g, .ok ()) := by
  simp only [compile, h hc, ← hc]

/-- A graph that is not marked as compiled promises nothing. -/
theorem fresh_of_not_compiled {g : Graph κ ν} (h : g.compiled = false) : g.Fresh := by
  intro hc
  rw [h] at hc
  contradiction

/-- The schedule does not depend on cached values. -/
theorem Fresh.withOutputs {g : Graph κ ν} (h : g.Fresh) (outputs : OutputCache ν) :
    ({ g with outputs } : Graph κ ν).Fresh := h

/-- A graph is fresh after compilation, whether that succeeds or not. -/
theorem fresh_compile (g : Graph κ ν) : g.compile.1.Fresh := by
  unfold compile
  split
  · rename_i order h
    exact fun _ => h
  · exact fresh_of_not_compiled rfl

variable [Inhabited ν]

/-- A compiled graph whose nodes all evaluate caches what they yield. -/
theorem execute_of_run {g : Graph κ ν} {evaluate : Evaluator κ ν} {outputs : OutputCache ν}
    (hc : g.compiled = true) (hrun : g.run evaluate = .ok outputs) :
    g.execute evaluate = ({ g with outputs }, .ok ()) := by
  rw [execute, if_pos hc, hrun]

/-- Execution changes cached values at most. -/
theorem execute_eq_withOutputs (g : Graph κ ν) (evaluate : Evaluator κ ν) :
    ∃ outputs, (g.execute evaluate).1 = { g with outputs } := by
  unfold execute
  split
  · split
    · exact ⟨_, rfl⟩
    · exact ⟨g.outputs, rfl⟩
  · exact ⟨g.outputs, rfl⟩

/-- Compiling, executing and the like leave the nodes and edges alone. -/
theorem plan_apply (g : Graph κ ν) {op : Op κ ν} (hop : op.keepsPlan = true) :
    (g.apply op).nodes = g.nodes ∧ (g.apply op).edges = g.edges := by
  cases op with
  | addNode kind => contradiction
  | setProperty id key value => contradiction
  | removeNode id => contradiction
  | addEdge e => contradiction
  | removeEdge e => contradiction
  | invalidate => exact ⟨rfl, rfl⟩
  | compile =>
    simp only [Graph.apply, compile]
    split <;> exact ⟨rfl, rfl⟩
  | execute evaluate =>
    obtain ⟨outputs, ho⟩ := execute_eq_withOutputs g evaluate
    simp only [Graph.apply, ho, and_self]
  | clone => exact ⟨rfl, rfl⟩

/-- Every operation keeps a graph fresh. -/
theorem Fresh.apply {g : Graph κ ν} (h : g.Fresh) (op : Op κ ν) : (g.apply op).Fresh := by
  cases op with
  | addNode kind => exact fresh_of_not_compiled rfl
  | setProperty id key value =>
    simp only [Graph.apply, setProperty]
    split
    · exact fresh_of_not_compiled rfl
    · exact h
  | removeNode id => exact fresh_of_not_compiled rfl
  | addEdge e => exact fresh_of_not_compiled rfl
  | removeEdge e => exact fresh_of_not_compiled rfl
  | invalidate => exact fresh_of_not_compiled rfl
  | compile => exact fresh_compile g
  | execute evaluate =>
    obtain ⟨outputs, ho⟩ := execute_eq_withOutputs g evaluate
    change (g.execute evaluate).1.Fresh
    rw [ho]
    exact h.withOutputs outputs
  | clone => exact h

/-- Every graph that has come about is fresh. -/
theorem fresh_built (name : String) (ops : List (Op κ ν)) : (built name ops).Fresh :=
  built_induction (fun _ => fresh_of_not_compiled rfl) (fun _ op h => h.apply op) name ops

/-- Every reachable graph is fresh. -/
theorem Reachable.fresh {g : Graph κ ν} (h : g.Reachable) : g.Fresh := by
  obtain ⟨name, ops, rfl⟩ := h
  exact fresh_built name ops

end Graph

end Shipwright
