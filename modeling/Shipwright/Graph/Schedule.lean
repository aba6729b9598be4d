import Shipwright.Graph.Basic

/-!
# Compilation

Compiling a graph checks each edge against the declared ports, in edge order,
and then releases the nodes first come, first served: nodes without incoming
edges in insertion order, and every other node when its last incoming edge is
relaxed. Assembly depends on which of two ready nodes comes first, so the order
is part of the contract. Nodes that are never released lie on a cycle or behind
one.
-/

namespace Shipwright

/-- Why a graph does not compile. -/
inductive CompileError where
  /-- Some nodes are never released. -/
  | cycleDetected (unresolved : List NodeId)
  /-- An end of the edge is no node of the graph. -/
  | danglingEdge (edge : Edge)
  /-- An end of an edge names a port that the node's kind does not declare. -/
  | invalidPort (node : NodeId) (port : PortIndex) (direction : PortDirection)
  /-- The two ports of the edge carry different types. -/
  | incompatiblePorts (edge : Edge)
  deriving DecidableEq, Repr

/-- The text shown for a compilation error. -/
def CompileError.message : CompileError → String
  | .cycleDetected unresolved =>
    "Graph contains a cycle through " ++ toString unresolved.length ++ " node(s)"
  | .danglingEdge edge => "Edge " ++ toString edge ++ " references a missing node"
  | .invalidPort node port direction =>
    "Node " ++ toString node ++ " has no " ++ direction.label ++ " port " ++ toString port.toNat
  | .incompatiblePorts edge => "Incompatible port types on edge " ++ toString edge

/-- The state of releasing nodes in order. -/
structure Scheduling where
  /-- Released nodes that have not been taken yet, next one first. -/
  queue : List NodeId
  /-- The nodes taken so far, in order. -/
  order : List NodeId
  /-- For every node, how many of its incoming edges have not been relaxed yet. -/
  pending : List (NodeId × Nat)
  deriving DecidableEq, Repr

namespace Scheduling

/-- The number of unrelaxed edges into a node. -/
def pendingOf (s : Scheduling) (id : NodeId) : Nat := (s.pending.lookup id).getD 0

/-- At first every incoming edge is pending, and the nodes without any are released. -/
def initial (ids : List NodeId) (edges : List Edge) : Scheduling :=
  let pending := ids.map fun id => (id, edges.countP (·.toNode = id))
  ⟨(pending.filter (·.2 = 0)).map (·.1), [], pending⟩

/-- The counters with one edge into a node relaxed. -/
def lower (id : NodeId) (pending : List (NodeId × Nat)) : List (NodeId × Nat) :=
  pending.map fun c => if c.1 = id then (c.1, c.2 - 1) else c

/-- Relaxing an edge lowers its target's counter and releases the target with its last one. -/
def relax (s : Scheduling) (e : Edge) : Scheduling :=
  { s with
    pending := lower e.toNode s.pending
    queue := if s.pendingOf e.toNode = 1 then s.queue ++ [e.toNode] else s.queue }

/-- Taking the next released node relaxes the edges that leave it, in edge order. -/
def step (edges : List Edge) (s : Scheduling) : Scheduling :=
  match s.queue with
  | [] => s
  | id :: queue =>
    (edges.filter (·.fromNode = id)).foldl relax { s with queue, order := s.order ++ [id] }

/-- A number of steps. -/
def steps (edges : List Edge) : Nat → Scheduling → Scheduling
  | 0, s => s
  | n + 1, s => steps edges n (s.step edges)

/-- The state in which nothing is released any more: every node is taken at most once, so as
many steps as there are nodes are enough. -/
def final (ids : List NodeId) (edges : List Edge) : Scheduling :=
  steps edges ids.length (initial ids edges)

/-- The nodes that still wait for an edge, in insertion order. -/
def unresolved (s : Scheduling) : List NodeId := (s.pending.filter (0 < ·.2)).map (·.1)

end Scheduling

namespace Graph

variable {κ ν : Type} [NodeFamily κ]

/-- Checks one edge: both ends exist, both ports are declared, and the types fit. -/
def checkEdge (g : Graph κ ν) (e : Edge) : Except CompileError Unit :=
  match g.node? e.fromNode, g.node? e.toNode with
  | some source, some target =>
    match NodeFamily.port? source.kind .output e.fromPort with
    | none => .error (.invalidPort e.fromNode e.fromPort .output)
    | some output =>
      match NodeFamily.port? target.kind .input e.toPort with
      | none => .error (.invalidPort e.toNode e.toPort .input)
      | some input => if output.canConnect input then .ok () else .error (.incompatiblePorts e)
  | _, _ => .error (.danglingEdge e)

/-- The execution order of a graph, or the reason why there is none. -/
def schedule (g : Graph κ ν) : Except CompileError (List NodeId) := do
  g.edges.forM g.checkEdge
  let s := Scheduling.final g.nodeIds g.edges
  if s.order.length = g.nodes.length then return s.order
  else throw (.cycleDetected s.unresolved)

/-- Compiles a graph: its order is the schedule, or empty where there is none. -/
def compile (g : Graph κ ν) : Graph κ ν × Except CompileError Unit :=
  match g.schedule with
  | .ok order => ({ g with order, compiled := true }, .ok ())
  | .error e => ({ g with order := [], compiled := false }, .error e)

end Graph

end Shipwright
