import Shipwright.Proofs.Graph.Dataflow

/-!
# What holds of every cached value

A property that the evaluator hands on from the inputs of a node to what the node
yields, and that the default value has, is had by every value an execution caches.
Neither the wiring nor the order matters: the property is there at every step.
-/

namespace Shipwright

variable {κ ν : Type} {P : ν → Prop}

/-- Every value of a cache has a property. -/
def OutputCache.All (P : ν → Prop) (cache : OutputCache ν) : Prop :=
  ∀ id port value, cache.get? (id, port) = some value → P value

/-- A node has a property on all of its ports if its inputs have it. -/
def Evaluator.Keeps (P : ν → Prop) (evaluate : Evaluator κ ν) : Prop :=
  ∀ n inputs, (∀ value ∈ inputs, P value) →
    ∀ port value, (evaluate n inputs).get? port = some value → P value

/-- Nothing is cached at first. -/
theorem OutputCache.all_empty : OutputCache.All P .empty :=
  fun _ _ _ h => nomatch h

/-- An output whose values have a property may be stored. -/
theorem OutputCache.All.store {cache : OutputCache ν} (h : cache.All P) (id : NodeId)
    {output : NodeOutput ν} (houtput : ∀ port value, output.get? port = some value → P value) :
    (cache.store id output).All P := by
  intro other port value hvalue
  rw [OutputCache.get?_store] at hvalue
  split at hvalue
  · rcases Option.or_eq_some_iff.mp hvalue with hnew | ⟨_, hold⟩
    · exact houtput port value hnew
    · exact h other port value hold
  · exact h other port value hvalue

namespace Graph

variable [Inhabited ν]

/-- What arrives over edges has the property of the cached values and the default value. -/
theorem lastCarried_of_all {cache : OutputCache ν} (h : cache.All P) (hdefault : P default)
    (es : List Edge) : P (lastCarried cache es) := by
  unfold lastCarried
  cases hvalue : (es.filter fun e => (carried cache e).isSome).getLast?.bind (carried cache) with
  | none => exact hdefault
  | some value =>
    obtain ⟨e, _, he⟩ := Option.bind_eq_some_iff.mp hvalue
    exact h e.fromNode e.fromPort value he

variable [NodeFamily κ] {evaluate : Evaluator κ ν}

/-- Evaluating a node keeps a property of all cached values. -/
theorem all_evaluateNode {g : Graph κ ν} (hkeeps : evaluate.Keeps P) (hdefault : P default)
    {cache cache' : OutputCache ν} {id : NodeId} (h : cache.All P)
    (hstep : g.evaluateNode evaluate cache id = .ok cache') : cache'.All P := by
  unfold evaluateNode at hstep
  split at hstep
  · contradiction
  · rename_i n _
    obtain rfl := Except.ok.inj hstep
    refine h.store id (hkeeps n _ ?_)
    intro value hvalue
    rw [inputsOf_eq_map] at hvalue
    obtain ⟨slot, _, rfl⟩ := List.mem_map.mp hvalue
    exact lastCarried_of_all h hdefault _

/-- Evaluating nodes in any order keeps a property of all cached values. -/
theorem all_foldlM_evaluateNode {g : Graph κ ν} (hkeeps : evaluate.Keeps P)
    (hdefault : P default) {order : List NodeId} {cache outputs : OutputCache ν}
    (h : cache.All P) (hrun : order.foldlM (g.evaluateNode evaluate) cache = .ok outputs) :
    outputs.All P := by
  induction order generalizing cache with
  | nil =>
    obtain rfl := Except.ok.inj hrun
    exact h
  | cons id order ih =>
    rw [List.foldlM_cons] at hrun
    cases hstep : g.evaluateNode evaluate cache id with
    | error e =>
      rw [hstep] at hrun
      exact nomatch hrun
    | ok cache' =>
      rw [hstep] at hrun
      exact ih (all_evaluateNode hkeeps hdefault h hstep) hrun

/-- Executing a graph caches values with a property, or leaves those that had it. -/
theorem all_execute {g : Graph κ ν} (hkeeps : evaluate.Keeps P) (hdefault : P default)
    (h : g.outputs.All P) : (g.execute evaluate).1.outputs.All P := by
  unfold execute
  split
  · split
    · rename_i outputs hrun
      exact all_foldlM_evaluateNode hkeeps hdefault OutputCache.all_empty hrun
    · exact h
  · exact h

/-- An operation keeps a property of all cached values if the evaluator, where it executes the
graph, hands the property on. -/
theorem all_apply {g : Graph κ ν} (hdefault : P default) (h : g.outputs.All P) {op : Op κ ν}
    (hkeeps : ∀ evaluate, op = .execute evaluate → evaluate.Keeps P) :
    (g.apply op).outputs.All P := by
  cases op with
  | addNode kind => exact h
  | setProperty id key value =>
    simp only [Graph.apply, setProperty]
    split <;> exact h
  | removeNode id => exact h
  | addEdge e => exact h
  | removeEdge e => exact h
  | invalidate => exact h
  | compile =>
    simp only [Graph.apply, compile]
    split <;> exact h
  | execute evaluate => exact all_execute (hkeeps evaluate rfl) hdefault h
  | clone => exact h

end Graph

end Shipwright
