import Shipwright.Graph.Node

/-!
# Outputs and their cache

Evaluating a node yields a value on some of its ports. The cache holds the
values of one execution under the pair of node and port.
-/

namespace Shipwright

/-- The values one node produced, by port. -/
abbrev NodeOutput (ν : Type) := OrderedMap PortIndex ν

/-- The output that carries one value on port 0. -/
def NodeOutput.single {ν : Type} (value : ν) : NodeOutput ν := OrderedMap.singleton 0 value

/-- The values of one execution, by node and port. -/
abbrev OutputCache (ν : Type) := OrderedMap (NodeId × PortIndex) ν

/-- The cache with every value of one node's output stored. -/
def OutputCache.store {ν : Type} (cache : OutputCache ν) (id : NodeId) (output : NodeOutput ν) :
    OutputCache ν :=
  cache.setAll (output.entries.map fun e => ((id, e.1), e.2))

end Shipwright
