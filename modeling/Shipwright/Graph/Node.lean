import Shipwright.OrderedMap
import Shipwright.Graph.Port

/-!
# Nodes

A node has a number of its own, a kind and string properties. The kinds of one
graph form a closed family; each kind declares its ports once and for all, so
edges can be checked without evaluating anything.
-/

namespace Shipwright

/-- The number of a node, unique within one graph. -/
structure NodeId where
  /-- The number itself. -/
  val : UInt32
  deriving DecidableEq, Repr, Inhabited

/-- A node is shown as its number behind a hash sign. -/
instance : ToString NodeId := ⟨fun n => "#" ++ toString n.val.toNat⟩

/-- A closed family of node kinds with their declared ports. -/
class NodeFamily (κ : Type) where
  /-- The name shown for a kind. -/
  name : κ → String
  /-- The input ports of a kind, in order. -/
  inputs : κ → List Port
  /-- The output ports of a kind, in order. -/
  outputs : κ → List Port

namespace NodeFamily

variable {κ : Type} [NodeFamily κ]

/-- The ports of a kind on one side. -/
def ports (kind : κ) : PortDirection → List Port
  | .input => inputs kind
  | .output => outputs kind

/-- The declared port at a place, if there is one. -/
def port? (kind : κ) (direction : PortDirection) (index : PortIndex) : Option Port :=
  (ports kind direction)[index.toNat]?

end NodeFamily

/-- A node of a graph over the kinds `κ`. -/
structure Node (κ : Type) where
  /-- The node's number. -/
  id : NodeId
  /-- The node's kind. -/
  kind : κ
  /-- The node's properties in insertion order. -/
  properties : OrderedMap String String

namespace Node

variable {κ : Type}

/-- A node without properties. -/
def ofKind (id : NodeId) (kind : κ) : Node κ := ⟨id, kind, .empty⟩

/-- The text of a property. -/
def property? (n : Node κ) (key : String) : Option String := n.properties.get? key

/-- The text of a property, or a default where it is absent. -/
def propertyOr (n : Node κ) (key fallback : String) : String := (n.property? key).getD fallback

/-- The node with a property inserted or replaced. -/
def setProperty (n : Node κ) (key value : String) : Node κ :=
  { n with properties := n.properties.set key value }

/-- The number of input slots a node is evaluated with. -/
def inputCount [NodeFamily κ] (n : Node κ) : Nat := (NodeFamily.inputs n.kind).length

@[simp] theorem id_setProperty (n : Node κ) (key value : String) :
    (n.setProperty key value).id = n.id := rfl

@[simp] theorem kind_setProperty (n : Node κ) (key value : String) :
    (n.setProperty key value).kind = n.kind := rfl

end Node

end Shipwright
