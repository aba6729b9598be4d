import Shipwright.Graph.Node

/-!
# Edges

An edge carries the value of one output port to one input port. Its ends are
numbers only; whether they name anything is decided when the graph is compiled.
-/

namespace Shipwright

/-- A directed edge from an output port to an input port. -/
structure Edge where
  /-- The node the value leaves. -/
  fromNode : NodeId
  /-- The output port the value leaves by. -/
  fromPort : PortIndex
  /-- The node the value enters. -/
  toNode : NodeId
  /-- The input port the value enters by. -/
  toPort : PortIndex
  deriving DecidableEq, Repr

namespace Edge

/-- Whether a node is one of the two ends. -/
def involves (e : Edge) (id : NodeId) : Bool := e.fromNode = id || e.toNode = id

/-- An edge is shown as its two ends, each a node and a port. -/
instance : ToString Edge :=
  ⟨fun e => toString e.fromNode ++ ":" ++ toString e.fromPort.toNat ++ " -> " ++
    toString e.toNode ++ ":" ++ toString e.toPort.toNat⟩

end Edge

end Shipwright
