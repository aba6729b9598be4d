/-!
# Ports

A port is a small number scoped to one node. A family of nodes declares its
ports in order; the place of a port in that list is the number that edges and
the output cache use.
-/

namespace Shipwright

/-- The number of a port on its node. -/
abbrev PortIndex := UInt16

/-- The side of a node on which a port sits. -/
inductive PortDirection where
  /-- Values arrive here. -/
  | input
  /-- Values leave here. -/
  | output
  deriving DecidableEq, Repr

namespace PortDirection

/-- Both directions. -/
def all : List PortDirection := [.input, .output]

/-- The word for a direction in messages and files. -/
def label : PortDirection → String
  | .input => "Input"
  | .output => "Output"

end PortDirection

/-- What kind of value flows through a port. -/
inductive PortType where
  /-- Triangle meshes. -/
  | mesh
  /-- Truth values. -/
  | bool
  /-- Numbers. -/
  | float
  /-- Whatever the other end carries. -/
  | any
  deriving DecidableEq, Repr

namespace PortType

/-- All port types. -/
def all : List PortType := [.mesh, .bool, .float, .any]

/-- The word for a port type in files. -/
def label : PortType → String
  | .mesh => "Mesh"
  | .bool => "Bool"
  | .float => "Float"
  | .any => "Any"

/-- Values of one type may flow into a port of another: equal types, or either end `any`. -/
def canConnect (source target : PortType) : Bool :=
  source = .any || target = .any || source = target

end PortType

/-- A declared port. -/
structure Port where
  /-- The name shown for the port. -/
  name : String
  /-- The kind of value it carries. -/
  type : PortType
  deriving DecidableEq, Repr

/-- Whether an edge may lead from this output to that input. -/
def Port.canConnect (output input : Port) : Bool := output.type.canConnect input.type

end Shipwright
