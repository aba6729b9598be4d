import Shipwright.Proofs.Graph.Dataflow
import Shipwright.Proofs.Ship.Operation

/-!
# Compiling again changes nothing

A session compiles its graph only where the graph is not marked as compiled. That
this makes no difference to anyone rests on the mark alone: whatever has been
done to a graph, as long as it bears the mark its order is its schedule.
-/

namespace Shipwright

namespace Graph

variable {κ ν : Type} [NodeFamily κ] [Inhabited ν]

/-- A graph that is not marked as compiled refuses to execute. -/
theorem execute_of_not_compiled {g : Graph κ ν} (h : g.compiled = false)
    (evaluate : Evaluator κ ν) : g.execute evaluate = (g, .error .notCompiled) := by
  simp [execute, h]

/-- A fresh graph executes exactly when it is marked as compiled. -/
theorem Fresh.execute_eq_ok_iff {g : Graph κ ν} (h : g.Fresh) (evaluate : Evaluator κ ν) :
    (g.execute evaluate).2 = .ok () ↔ g.compiled = true := by
  cases hc : g.compiled with
  | false => simp [execute_of_not_compiled hc]
  | true =>
    obtain ⟨outputs, hexecute, _⟩ := h.exists_execute_solves hc evaluate
    simp [hexecute]

/-- A fresh graph never misses a node when it executes. -/
theorem Fresh.execute_ne_nodeNotFound {g : Graph κ ν} (h : g.Fresh) (evaluate : Evaluator κ ν)
    (id : NodeId) : (g.execute evaluate).2 ≠ .error (.nodeNotFound id) := by
  cases hc : g.compiled with
  | false => simp [execute_of_not_compiled hc]
  | true =>
    obtain ⟨outputs, hexecute, _⟩ := h.exists_execute_solves hc evaluate
    simp [hexecute]

end Graph

namespace Session

variable {α : Type} [Trigonometric α]

/-- Generates the mesh like a session, but compiles the graph in any case. -/
def generateAfresh (s : Session α) : Session α × Except GenerateError (Mesh α) :=
  match s.assembly.compile with
  | (assembly, .error e) => ({ s with assembly }, .error (.compile e))
  | (assembly, .ok _) =>
    match assembly.execute with
    | (assembly, .error e) => ({ s with assembly }, .error (.execute e))
    | (assembly, .ok _) => ({ s with assembly }, .ok (assembly.output?.getD .empty))

/-- Over a fresh graph it makes no difference whether compilation is skipped. -/
theorem generate_eq_generateAfresh {s : Session α} (h : s.assembly.graph.Fresh) :
    s.generate = s.generateAfresh := by
  have hskip : (if s.assembly.compiled then (s.assembly, .ok ()) else s.assembly.compile) =
      s.assembly.compile := by
    split
    · rename_i hc
      simp only [Assembly.compile, h.compile_eq hc]
    · rfl
  unfold generateAfresh
  rw [← hskip]
  rfl

end Session

/-- Whatever operations have made of a graph, as long as it is marked as compiled its order is the
one that compiling would give now, so compiling again succeeds and changes nothing; it executes
exactly when it is marked, and never misses a node. So a session that has come about generates the
same mesh or error, and is left in the same state, as if it compiled its graph every time. -/
theorem recompilation_changes_nothing :
    (∀ {κ ν : Type} [NodeFamily κ] [Inhabited ν] (name : String) (ops : List (Graph.Op κ ν)),
      let g := Graph.built name ops
      (g.compiled = true → g.schedule = .ok g.order ∧ g.compile = (g, .ok ())) ∧
      ∀ evaluate : Evaluator κ ν,
        ((g.execute evaluate).2 = .ok () ↔ g.compiled = true) ∧
        ∀ id, (g.execute evaluate).2 ≠ .error (.nodeNotFound id)) ∧
    ∀ {α : Type} [Trigonometric α] [Ron.Codec α] (s : Session α), s.Reachable →
      s.generate = s.generateAfresh := by
  refine ⟨?_, ?_⟩
  · intro κ ν _ _ name ops
    have hfresh := Graph.fresh_built name ops
    exact ⟨fun hc => ⟨hfresh hc, hfresh.compile_eq hc⟩, fun evaluate =>
      ⟨hfresh.execute_eq_ok_iff evaluate, hfresh.execute_ne_nodeNotFound evaluate⟩⟩
  · intro α _ _ s hs
    exact Session.generate_eq_generateAfresh hs.assembly.graph.fresh

/-- The doubling graph is as compiling it again leaves it, and a new ship whose mesh has been
generated once generates it again as if its graph were compiled anew. -/
theorem recompilation_changes_nothing_twice :
    (Graph.built "Double" Calc.twiceIntoSink).compiled = true ∧
    (Graph.built "Double" Calc.twiceIntoSink).compile =
      (Graph.built "Double" Calc.twiceIntoSink, .ok ()) ∧
    ((Session.newShip "ship" "Corvette" 7 .standard : Session Single).apply
      .generate).Reachable ∧
    ((Session.newShip "ship" "Corvette" 7 .standard : Session Single).apply .generate).generate =
      ((Session.newShip "ship" "Corvette" 7 .standard : Session Single).apply
        .generate).generateAfresh := by
  have hcompiled : (Graph.built "Double" Calc.twiceIntoSink).compiled = true := rfl
  have hcompile :=
    ((recompilation_changes_nothing.1 "Double" Calc.twiceIntoSink).1 hcompiled).2
  have hreachable : ((Session.newShip "ship" "Corvette" 7 .standard : Session Single).apply
      .generate).Reachable := .apply (.newShip "ship" "Corvette" 7 .standard) .generate
  exact ⟨hcompiled, hcompile, hreachable, recompilation_changes_nothing.2 _ hreachable⟩

end Shipwright
