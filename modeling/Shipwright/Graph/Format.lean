import Shipwright.Graph.Edge
import Shipwright.Ron.Codec

/-!
# Graphs in files

How node numbers, edges and nodes are written. A node keeps its properties as a
map from texts to texts in insertion order.
-/

namespace Shipwright

open Ron Codec

instance : Codec NodeId := wrapped "NodeId" NodeId.mk NodeId.val

instance : Codec PortType := tagged PortType.label PortType.all

instance : Codec PortDirection := tagged PortDirection.label PortDirection.all

instance : Codec Edge where
  encode e := .record (some "Edge")
    [("from_node", encode e.fromNode), ("from_port", encode e.fromPort),
      ("to_node", encode e.toNode), ("to_port", encode e.toPort)]
  decode exts v := do
    let fs ← v.fields? exts "Edge"
    return ⟨← required exts fs "from_node", ← required exts fs "from_port",
      ← required exts fs "to_node", ← required exts fs "to_port"⟩

instance {κ : Type} [Codec κ] : Codec (Node κ) where
  encode n := .record (some "Node")
    [("id", encode n.id), ("kind", encode n.kind), ("properties", encode n.properties)]
  decode exts v := do
    let fs ← v.fields? exts "Node"
    return ⟨← required exts fs "id", ← required exts fs "kind", ← required exts fs "properties"⟩

end Shipwright
