import Shipwright.Proofs.Graph.Operation

/-!
# A small family of nodes

Constants, nodes that stay silent, sums and sinks over the integers: just enough
to show what happens on a port that is declared and yields nothing, and that the
rest of a graph does not matter to a node.
-/

namespace Shipwright

/-- The kinds of a calculating graph. -/
inductive Calc where
  | constant
  | silent
  | sum
  | sink
  deriving DecidableEq, Repr

namespace Calc

/-- Sums take two numbers and sinks one. -/
def inputs : Calc → List Port
  | .sum => [⟨"A", .float⟩, ⟨"B", .float⟩]
  | .sink => [⟨"Value", .float⟩]
  | _ => []

/-- All kinds but sinks declare one number. -/
def outputs : Calc → List Port
  | .sink => []
  | _ => [⟨"Value", .float⟩]

instance : NodeFamily Calc where
  name
    | .constant => "Constant"
    | .silent => "Silent"
    | .sum => "Sum"
    | .sink => "Sink"
  inputs := inputs
  outputs := outputs

/-- A constant yields its own number, a sum that of its inputs, and the other kinds nothing. -/
def evaluate : Evaluator Calc Int := fun n inputs =>
  match n.kind with
  | .constant => .single (Int.ofNat n.id.val.toNat)
  | .sum => .single (inputs.foldl Int.add 0)
  | _ => .empty

/-- Evaluates like `evaluate`, but sinks pass on what they take. -/
def evaluateLeaky : Evaluator Calc Int := fun n inputs =>
  match n.kind with
  | .sink => .single (inputs.foldl Int.add 0)
  | _ => evaluate n inputs

/-- Adds a constant number 1 to itself: into the second slot of the sum leads a silent node, too. -/
def twice : List (Graph.Op Calc Int) :=
  [.addNode .constant, .addNode .silent, .addNode .sum,
    .addEdge ⟨⟨1⟩, 0, ⟨3⟩, 0⟩, .addEdge ⟨⟨1⟩, 0, ⟨3⟩, 1⟩, .addEdge ⟨⟨2⟩, 0, ⟨3⟩, 1⟩, .compile]

/-- The same sum with its slots filled in another order, a sink behind it and an execution before
the last compilation. -/
def twiceIntoSink : List (Graph.Op Calc Int) :=
  [.addNode .constant, .addNode .silent, .addNode .sum, .addNode .sink,
    .addEdge ⟨⟨3⟩, 0, ⟨4⟩, 0⟩, .addEdge ⟨⟨1⟩, 0, ⟨3⟩, 1⟩, .compile, .execute evaluate,
    .addEdge ⟨⟨2⟩, 0, ⟨3⟩, 1⟩, .addEdge ⟨⟨1⟩, 0, ⟨3⟩, 0⟩, .compile]

/-- Two constants that both lead into both of two sums; the edge that completes the second sum comes
before the one that completes the first. -/
def crossed : List (Graph.Op Calc Int) :=
  [.addNode .constant, .addNode .constant, .addNode .sum, .addNode .sum,
    .addEdge ⟨⟨1⟩, 0, ⟨3⟩, 0⟩, .addEdge ⟨⟨1⟩, 0, ⟨4⟩, 0⟩, .addEdge ⟨⟨2⟩, 0, ⟨4⟩, 1⟩,
    .addEdge ⟨⟨2⟩, 0, ⟨3⟩, 1⟩]

/-- A sum and a sink behind it, and another sum that leads into both the first one and itself. -/
def looped : List (Graph.Op Calc Int) :=
  [.addNode .constant, .addNode .sum, .addNode .sink, .addNode .sum,
    .addEdge ⟨⟨1⟩, 0, ⟨2⟩, 0⟩, .addEdge ⟨⟨4⟩, 0, ⟨2⟩, 1⟩, .addEdge ⟨⟨2⟩, 0, ⟨3⟩, 0⟩,
    .addEdge ⟨⟨1⟩, 0, ⟨4⟩, 0⟩, .addEdge ⟨⟨4⟩, 0, ⟨4⟩, 1⟩]

/-- A constant that leads into a sum by three edges, two of which are alike; the sum leads into one
of two others, which lead into each other, and the second of them twice into itself. -/
def tangled : List (Graph.Op Calc Int) :=
  [.addNode .constant, .addNode .sum, .addNode .sum, .addNode .sum,
    .addEdge ⟨⟨1⟩, 0, ⟨2⟩, 0⟩, .addEdge ⟨⟨1⟩, 0, ⟨2⟩, 0⟩, .addEdge ⟨⟨1⟩, 0, ⟨2⟩, 1⟩,
    .addEdge ⟨⟨2⟩, 0, ⟨3⟩, 0⟩, .addEdge ⟨⟨4⟩, 0, ⟨3⟩, 1⟩, .addEdge ⟨⟨3⟩, 0, ⟨4⟩, 0⟩,
    .addEdge ⟨⟨4⟩, 0, ⟨4⟩, 1⟩, .addEdge ⟨⟨4⟩, 0, ⟨4⟩, 1⟩]

/-- Adds the constants 1 and 4: into the slot of the second one a constant and a silent node lead
before it. -/
def overruled : List (Graph.Op Calc Int) :=
  [.addNode .constant, .addNode .silent, .addNode .sum, .addNode .constant,
    .addEdge ⟨⟨1⟩, 0, ⟨3⟩, 0⟩, .addEdge ⟨⟨2⟩, 0, ⟨3⟩, 0⟩, .addEdge ⟨⟨4⟩, 0, ⟨3⟩, 0⟩,
    .addEdge ⟨⟨1⟩, 0, ⟨3⟩, 1⟩]

/-- Edits that take an edge and a constant out of the crossed graph, add a sum that does not stay
and a sink that does, and remove what is not there. -/
def thinned : List (Graph.Op Calc Int) :=
  [.removeEdge ⟨⟨1⟩, 0, ⟨4⟩, 0⟩, .addNode .sum, .removeNode ⟨2⟩, .setProperty ⟨1⟩ "value" "2",
    .invalidate, .removeNode ⟨9⟩, .addNode .sink, .removeNode ⟨5⟩, .removeEdge ⟨⟨6⟩, 0, ⟨6⟩, 0⟩]

/-- A constant that leads into a sink. -/
def joined : List (Graph.Op Calc Int) :=
  [.addNode .constant, .addNode .sink, .addEdge ⟨⟨1⟩, 0, ⟨2⟩, 0⟩]

/-- Edits that add so many constants. -/
def flood (count : Nat) : List (Graph.Op Calc Int) := .replicate count (.addNode .constant)

/-- Edits that take the constant out of the doubling graph and compile what is left, once in vain as
long as the sum leads into itself; none of the executions in between succeeds. -/
def emptied : List (Graph.Op Calc Int) :=
  [.removeNode ⟨1⟩, .execute evaluate, .addEdge ⟨⟨3⟩, 0, ⟨3⟩, 0⟩, .compile, .execute evaluate,
    .removeEdge ⟨⟨3⟩, 0, ⟨3⟩, 0⟩, .compile]

end Calc

end Shipwright
