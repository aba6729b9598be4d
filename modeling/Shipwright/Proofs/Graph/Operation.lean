import Shipwright.Graph.Execute
import Shipwright.Graph.Schedule

/-!
# Operations on graphs

Everything that can be done to a graph, as data. What becomes of a graph is then
told by the list of operations carried out on it, and what holds of every graph
that has come about is proved by what each operation keeps.
-/

namespace Shipwright

namespace Graph

/-- One thing that can be done to a graph. -/
inductive Op (κ ν : Type) where
  /-- Adds a node of some kind. -/
  | addNode (kind : κ)
  /-- Inserts or replaces a property of a node. -/
  | setProperty (id : NodeId) (key value : String)
  /-- Removes a node and the edges that touch it. -/
  | removeNode (id : NodeId)
  /-- Appends an edge. -/
  | addEdge (e : Edge)
  /-- Removes every copy of an edge. -/
  | removeEdge (e : Edge)
  /-- Marks the compiled order as stale. -/
  | invalidate
  /-- Compiles the graph. -/
  | compile
  /-- Executes the graph. -/
  | execute (evaluate : Evaluator κ ν)
  /-- Goes on with a copy of the graph. -/
  | clone

variable {κ ν : Type} [NodeFamily κ] [Inhabited ν]

/-- The graph after one operation, whatever that answers. -/
def apply (g : Graph κ ν) : Op κ ν → Graph κ ν
  | .addNode kind => (g.addNode kind).1
  | .setProperty id key value => (g.setProperty id key value).1
  | .removeNode id => (g.removeNode id).1
  | .addEdge e => g.addEdge e
  | .removeEdge e => (g.removeEdge e).1
  | .invalidate => g.invalidate
  | .compile => g.compile.1
  | .execute evaluate => (g.execute evaluate).1
  | .clone => g

/-- Whether an operation is none of those that change the nodes and edges of a graph. -/
def Op.keepsPlan {κ ν : Type} : Op κ ν → Bool
  | .addNode _ | .setProperty .. | .removeNode _ | .addEdge _ | .removeEdge _ => false
  | _ => true

/-- The graph after a list of operations. -/
def applyAll (g : Graph κ ν) (ops : List (Op κ ν)) : Graph κ ν := ops.foldl apply g

/-- The graph that a list of operations makes of an empty one. -/
def built (name : String) (ops : List (Op κ ν)) : Graph κ ν := (empty name).applyAll ops

/-- A graph that operations have made of an empty one. -/
def Reachable (g : Graph κ ν) : Prop := ∃ name ops, g = built name ops

/-- Something holds of each operation of a list and the graph it is carried out on. -/
def Throughout (P : Graph κ ν → Op κ ν → Prop) (g : Graph κ ν) : List (Op κ ν) → Prop
  | [] => True
  | op :: ops => P g op ∧ Throughout P (g.apply op) ops

instance Throughout.decidable (P : Graph κ ν → Op κ ν → Prop) [∀ g op, Decidable (P g op)] :
    ∀ g ops, Decidable (Throughout P g ops)
  | _, [] => .isTrue trivial
  | g, op :: ops =>
    have := Throughout.decidable P (g.apply op) ops
    inferInstanceAs (Decidable (P g op ∧ Throughout P (g.apply op) ops))

/-- What each operation keeps, given what holds throughout, is kept by all of them. -/
theorem Throughout.applyAll {P : Graph κ ν → Op κ ν → Prop} {Q : Graph κ ν → Prop}
    (hstep : ∀ g op, P g op → Q g → Q (g.apply op)) {g : Graph κ ν} {ops : List (Op κ ν)}
    (h : Throughout P g ops) (hg : Q g) : Q (g.applyAll ops) := by
  induction ops generalizing g with
  | nil => exact hg
  | cons op ops ih => exact ih h.2 (hstep g op h.1 hg)

/-- What holds throughout two lists holds throughout both together. -/
theorem throughout_append {P : Graph κ ν → Op κ ν → Prop} {g : Graph κ ν}
    {ops later : List (Op κ ν)} :
    Throughout P g (ops ++ later) ↔ Throughout P g ops ∧ Throughout P (g.applyAll ops) later := by
  induction ops generalizing g with
  | nil => simp [Throughout, applyAll]
  | cons op ops ih => exact (and_congr_right fun _ => ih).trans and_assoc.symm

/-- An empty graph is reachable without any operation. -/
theorem Reachable.empty (name : String) : (Graph.empty name : Graph κ ν).Reachable :=
  ⟨name, [], rfl⟩

/-- One more operation leads to a reachable graph. -/
theorem Reachable.apply {g : Graph κ ν} (h : g.Reachable) (op : Op κ ν) :
    (g.apply op).Reachable := by
  obtain ⟨name, ops, rfl⟩ := h
  exact ⟨name, ops ++ [op], by simp [built, applyAll]⟩

/-- What the empty graph has and every operation keeps, every graph has that has come about. -/
theorem built_induction {P : Graph κ ν → Prop} (hempty : ∀ name, P (empty name))
    (hstep : ∀ g op, P g → P (apply g op)) (name : String) (ops : List (Op κ ν)) :
    P (built name ops) := by
  refine List.foldlRecOn ops apply (hempty name) ?_
  intro g hg op _
  exact hstep g op hg

end Graph

end Shipwright
