import Shipwright.Graph.Edge
import Shipwright.Graph.Output

/-!
# Graphs and their editing

A graph keeps its nodes and edges in insertion order. Every change of nodes,
properties or edges marks the compiled order as stale; the order itself and the
values of the last execution stay in place until they are replaced.

Node numbers are handed out in turn, as 32-bit words: past the largest one they
start over, and a node that still has the number is replaced where it stands. So
no two nodes of a graph ever have the same number, and the type says so.
-/

namespace Shipwright

/-- A graph over the node kinds `κ` with values `ν` on its edges. -/
structure Graph (κ ν : Type) where
  /-- The name of the graph. -/
  name : String
  /-- The nodes in insertion order. -/
  nodes : List (Node κ)
  /-- The edges in insertion order. -/
  edges : List Edge
  /-- The number the next node gets. -/
  nextId : UInt32
  /-- The execution order of the last successful compilation. -/
  order : List NodeId
  /-- Whether that order belongs to the present nodes and edges. -/
  compiled : Bool
  /-- The values of the last successful execution. -/
  outputs : OutputCache ν
  /-- No two nodes have the same number. -/
  distinct : (nodes.map (·.id)).Nodup

namespace Graph

variable {κ ν : Type}

/-- A graph without nodes; the first node gets number 1. -/
def empty (name : String) : Graph κ ν := ⟨name, [], [], 1, [], false, .empty, .nil⟩

/-- The name of a graph that was given none. -/
def untitled : String := "Untitled"

/-- The node with a number. -/
def node? (g : Graph κ ν) (id : NodeId) : Option (Node κ) := g.nodes.find? (·.id = id)

/-- The numbers of all nodes in insertion order. -/
def nodeIds (g : Graph κ ν) : List NodeId := g.nodes.map (·.id)

/-- The edges that feed a node, in insertion order. -/
def edgesInto (g : Graph κ ν) (id : NodeId) : List Edge := g.edges.filter (·.toNode = id)

/-- The value a port produced in the last execution. -/
def output? (g : Graph κ ν) (id : NodeId) (port : PortIndex) : Option ν :=
  g.outputs.get? (id, port)

/-- The graph with its compiled order marked as stale. -/
def invalidate (g : Graph κ ν) : Graph κ ν := { g with compiled := false }

/-- The graph with a node of some kind added, and the node's number. -/
def addNode (g : Graph κ ν) (kind : κ) : Graph κ ν × NodeId :=
  let id : NodeId := ⟨g.nextId⟩
  ({ g with
      nodes := OrderedMap.put Node.id (Node.ofKind id kind) g.nodes
      nextId := g.nextId + 1
      compiled := false
      distinct := OrderedMap.nodup_map_put _ _ g.distinct }, id)

/-- The nodes with a property of one of them inserted or replaced. -/
def setPropertyOf (id : NodeId) (key value : String) (nodes : List (Node κ)) : List (Node κ) :=
  nodes.map fun n => if n.id = id then n.setProperty key value else n

/-- A property changes no node's number. -/
theorem map_id_setPropertyOf (id : NodeId) (key value : String) (nodes : List (Node κ)) :
    (setPropertyOf id key value nodes).map (·.id) = nodes.map (·.id) := by
  simp only [setPropertyOf, List.map_map, List.map_inj_left, Function.comp_apply]
  intro n _
  split <;> rfl

/-- The graph with a node property inserted or replaced, and whether there is such a node. -/
def setProperty (g : Graph κ ν) (id : NodeId) (key value : String) : Graph κ ν × Bool :=
  if (g.node? id).isSome then
    ({ g with
        nodes := setPropertyOf id key value g.nodes
        compiled := false
        distinct := by
          rw [map_id_setPropertyOf]
          exact g.distinct }, true)
  else (g, false)

/-- The graph without a node and without the edges that touch it, and the node removed. -/
def removeNode (g : Graph κ ν) (id : NodeId) : Graph κ ν × Option (Node κ) :=
  ({ g with
      nodes := g.nodes.filter (·.id ≠ id)
      edges := g.edges.filter (!·.involves id)
      compiled := false
      distinct := g.distinct.sublist (List.filter_sublist.map _) }, g.node? id)

/-- The graph with an edge appended; its ends are checked by compilation only. -/
def addEdge (g : Graph κ ν) (e : Edge) : Graph κ ν :=
  { g with edges := g.edges ++ [e], compiled := false }

/-- The graph without any copy of an edge, and whether there was one. -/
def removeEdge (g : Graph κ ν) (e : Edge) : Graph κ ν × Bool :=
  ({ g with edges := g.edges.filter (· ≠ e), compiled := false }, g.edges.contains e)

@[simp] theorem nodeIds_setProperty (g : Graph κ ν) (id : NodeId) (key value : String) :
    (g.setProperty id key value).1.nodeIds = g.nodeIds := by
  simp only [setProperty, nodeIds]
  split
  · exact map_id_setPropertyOf id key value g.nodes
  · rfl

/-- The numbers of the nodes are distinct. -/
theorem nodup_nodeIds (g : Graph κ ν) : g.nodeIds.Nodup := g.distinct

/-- No edge touches a node that was removed. -/
theorem not_involves_of_mem_removeNode {g : Graph κ ν} {id : NodeId} {e : Edge}
    (h : e ∈ (g.removeNode id).1.edges) : e.involves id = false := by
  simpa using (List.mem_filter.1 h).2

end Graph

end Shipwright
