import Shipwright.Proofs.Graph.Calculator
import Shipwright.Proofs.Graph.Dataflow

/-!
# Cached values last until the next execution

The cache of a graph is written by executions that succeed and by nothing else. Edits, removals,
compilations and executions that fail leave every cached value as it is, those of removed nodes
included. An execution that succeeds leaves nothing of what was cached before: it caches what it
has computed for the nodes that are there, and the same from whatever cache it began with.
-/

namespace Shipwright

namespace Graph

variable {κ ν : Type} [NodeFamily κ] [Inhabited ν]

/-- An operation executes a graph and succeeds. -/
def Executes (g : Graph κ ν) : Op κ ν → Prop
  | .execute evaluate => (g.execute evaluate).2 = .ok ()
  | _ => False

instance (g : Graph κ ν) : ∀ op, Decidable (g.Executes op)
  | .execute evaluate =>
    match h : (g.execute evaluate).2 with
    | .ok () => .isTrue h
    | .error _ => .isFalse fun hok => nomatch h.symm.trans hok
  | .addNode _ | .setProperty .. | .removeNode _ | .addEdge _ | .removeEdge _ | .invalidate
  | .compile | .clone => .isFalse id

/-- An execution that succeeds has compiled before, and all of its nodes evaluate. -/
theorem run_of_execute_ok {g : Graph κ ν} {evaluate : Evaluator κ ν}
    (h : (g.execute evaluate).2 = .ok ()) :
    g.compiled = true ∧ ∃ outputs, g.run evaluate = .ok outputs := by
  by_cases hc : g.compiled = true
  · cases hrun : g.run evaluate with
    | ok outputs => exact ⟨hc, outputs, rfl⟩
    | error e => simp [execute, hc, hrun] at h
  · simp [execute, hc] at h

/-- An execution that fails changes nothing. -/
theorem execute_fst_of_ne_ok {g : Graph κ ν} {evaluate : Evaluator κ ν}
    (h : (g.execute evaluate).2 ≠ .ok ()) : (g.execute evaluate).1 = g := by
  by_cases hc : g.compiled = true
  · cases hrun : g.run evaluate with
    | ok outputs => exact absurd (congrArg Prod.snd (execute_of_run hc hrun)) h
    | error e => simp [execute, hc, hrun]
  · simp [execute, hc]

/-- An operation that is no successful execution leaves the cache as it is. -/
theorem outputs_apply {g : Graph κ ν} {op : Op κ ν} (h : ¬ g.Executes op) :
    (g.apply op).outputs = g.outputs := by
  cases op with
  | addNode kind => rfl
  | setProperty id key value =>
    simp only [Graph.apply, setProperty]
    split <;> rfl
  | removeNode id => rfl
  | addEdge e => rfl
  | removeEdge e => rfl
  | invalidate => rfl
  | compile =>
    simp only [Graph.apply, compile]
    split <;> rfl
  | execute evaluate => exact congrArg Graph.outputs (execute_fst_of_ne_ok h)
  | clone => rfl

/-- Without a successful execution the cache stays as it is. -/
theorem outputs_applyAll {g : Graph κ ν} {run : List (Op κ ν)}
    (h : Throughout (fun g op => ¬ g.Executes op) g run) :
    (g.applyAll run).outputs = g.outputs :=
  h.applyAll (Q := fun g' => g'.outputs = g.outputs)
    (fun _ _ hop heq => (outputs_apply hop).trans heq) rfl

/-- A successful execution caches the same whatever was cached before. -/
theorem execute_withOutputs {g : Graph κ ν} {evaluate : Evaluator κ ν}
    (h : (g.execute evaluate).2 = .ok ()) (outputs : OutputCache ν) :
    ({ g with outputs } : Graph κ ν).execute evaluate = g.execute evaluate := by
  obtain ⟨hc, computed, hrun⟩ := run_of_execute_ok h
  rw [execute_of_run hc hrun]
  exact execute_of_run hc hrun

/-- Whatever has become of a graph: as long as no execution succeeds, every output is what it was,
whether its node is still there or not. And when an execution succeeds then, a value is cached just
where the execution computed it, from inputs in the same cache, for a node that is still there; what
was cached before makes no difference. -/
theorem output?_kept_until_executed (name : String) (ops run : List (Op κ ν)) :
    let g := built name ops
    let g' := g.applyAll run
    (Throughout (fun h op => ¬ h.Executes op) g run →
      ∀ id port, g'.output? id port = g.output? id port) ∧
    ∀ evaluate, g'.Executes (.execute evaluate) →
      let executed := g.applyAll (run ++ [.execute evaluate])
      (∀ id port value, executed.output? id port = some value ↔
        ∃ n ∈ g'.nodes, n.id = id ∧
          (evaluate n (g'.inputsOf executed.outputs n)).get? port = some value) ∧
      ∀ outputs, (({ g' with outputs } : Graph κ ν).execute evaluate).1 = executed := by
  intro g g'
  refine ⟨fun hnone id port => ?_, ?_⟩
  · rw [output?, output?, outputs_applyAll hnone]
  · intro evaluate hok executed
    have hexecuted : executed = (g'.execute evaluate).1 := by
      simp [executed, g', applyAll, Graph.apply]
    have hc : g'.compiled = true := (run_of_execute_ok hok).1
    have hreachable : g'.Reachable := ⟨name, ops ++ run, by simp [g', g, built, applyAll]⟩
    obtain ⟨computed, hexecute, hsolves⟩ := hreachable.fresh.exists_execute_solves hc evaluate
    rw [hexecute] at hexecuted
    refine ⟨fun id port value => ?_, fun outputs => ?_⟩
    · rw [hexecuted]
      change computed.get? (id, port) = some value ↔ _
      rw [hsolves id port, yielded, Option.bind_eq_some_iff]
      simp only [node?_eq_some_iff, and_assoc]
    · rw [execute_withOutputs hok outputs, hexecute, hexecuted]

/-- The constant of the doubling graph outlives its removal in the cache, through executions and a
compilation that fail, and is gone with the next execution that succeeds. -/
theorem output?_kept_until_executed_emptied :
    let g := built "Double" Calc.twiceIntoSink
    Throughout (fun h op => ¬ h.Executes op) g Calc.emptied ∧
    (∀ id port, (g.applyAll Calc.emptied).output? id port = g.output? id port) ∧
    (g.applyAll Calc.emptied).output? ⟨1⟩ 0 = some 1 ∧
    (g.applyAll Calc.emptied).Executes (.execute Calc.evaluate) ∧
    ∀ port, (g.applyAll (Calc.emptied ++ [.execute Calc.evaluate])).output? ⟨1⟩ port = none := by
  intro g
  obtain ⟨hkept, hreplaced⟩ :=
    output?_kept_until_executed "Double" Calc.twiceIntoSink Calc.emptied
  have hfails : Throughout (fun h op => ¬ h.Executes op) g Calc.emptied := by decide
  have hexecutes : (g.applyAll Calc.emptied).Executes (.execute Calc.evaluate) := by decide
  have hgone : (⟨1⟩ : NodeId) ∉ (g.applyAll Calc.emptied).nodeIds := by decide
  refine ⟨hfails, hkept hfails, by decide, hexecutes, fun port => ?_⟩
  rw [Option.eq_none_iff_forall_ne_some]
  intro value hvalue
  obtain ⟨n, hn, hid, _⟩ := ((hreplaced Calc.evaluate hexecutes).1 ⟨1⟩ port value).mp hvalue
  exact hgone (List.mem_map.mpr ⟨n, hn, hid⟩)

end Graph

end Shipwright
