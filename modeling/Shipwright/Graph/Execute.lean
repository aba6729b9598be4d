import Shipwright.Graph.Basic

/-!
# Execution

Executing a compiled graph evaluates its nodes in order. A node sees one value
per declared input port: the value of the last edge into the port whose source
produced something, or the default value. The values of an execution replace
those of the one before as a whole, and only when it succeeds.
-/

namespace Shipwright

/-- Why a graph does not execute. -/
inductive ExecuteError where
  /-- The graph has changed since it was last compiled. -/
  | notCompiled
  /-- The compiled order names a node that is gone. -/
  | nodeNotFound (node : NodeId)
  deriving DecidableEq, Repr

/-- The text shown for an execution error. -/
def ExecuteError.message : ExecuteError → String
  | .notCompiled => "Graph is not compiled"
  | .nodeNotFound node => "Node not found: " ++ toString node

/-- What the nodes compute: the output of a node on its input values. -/
abbrev Evaluator (κ ν : Type) := Node κ → List ν → NodeOutput ν

namespace Graph

variable {κ ν : Type} [NodeFamily κ] [Inhabited ν]

/-- Puts the value an edge carries, if any, into the slot the edge leads to. -/
def fillSlot (cache : OutputCache ν) (slots : List ν) (e : Edge) : List ν :=
  match cache.get? (e.fromNode, e.fromPort) with
  | some value => slots.set e.toPort.toNat value
  | none => slots

/-- The input values of a node: the edges fill the slots in order, so the last one wins. -/
def inputsOf (g : Graph κ ν) (cache : OutputCache ν) (n : Node κ) : List ν :=
  (g.edgesInto n.id).foldl (fillSlot cache) (List.replicate n.inputCount default)

/-- Evaluates one node and stores what it produced. -/
def evaluateNode (g : Graph κ ν) (evaluate : Evaluator κ ν) (cache : OutputCache ν)
    (id : NodeId) : Except ExecuteError (OutputCache ν) :=
  match g.node? id with
  | none => .error (.nodeNotFound id)
  | some n => .ok (cache.store id (evaluate n (g.inputsOf cache n)))

/-- The values of an execution in the compiled order. -/
def run (g : Graph κ ν) (evaluate : Evaluator κ ν) : Except ExecuteError (OutputCache ν) :=
  g.order.foldlM (g.evaluateNode evaluate) .empty

/-- Executes a graph; a graph that is not compiled, or fails, is left as it is. -/
def execute (g : Graph κ ν) (evaluate : Evaluator κ ν) :
    Graph κ ν × Except ExecuteError Unit :=
  if g.compiled then
    match g.run evaluate with
    | .ok outputs => ({ g with outputs }, .ok ())
    | .error e => (g, .error e)
  else (g, .error .notCompiled)

end Graph

end Shipwright
