import Shipwright.Proofs.Graph.Calculator
import Shipwright.Proofs.Graph.Compile
import Shipwright.Proofs.Graph.Freshness
import Mathlib.Data.List.Induction

/-!
# Execution solves the equations of the graph

The values of an execution are told by equations: a node has what the evaluator
makes of its inputs, and an input has what the last edge into it carries. The
loop that executes a graph reads a cache that is still being filled, but its
order respects the edges, so what it reads is there already and stays as it is.
-/

namespace Shipwright

/-- Storing a node's output changes what is cached for that node only. -/
theorem OutputCache.get?_store {ν : Type} (cache : OutputCache ν) (id other : NodeId)
    (output : NodeOutput ν) (port : PortIndex) :
    (cache.store id output).get? (other, port) =
      if other = id then (output.get? port).or (cache.get? (other, port))
      else cache.get? (other, port) := by
  obtain ⟨es, hes⟩ := output
  change (cache.setAll (es.map fun e => ((id, e.1), e.2))).get? (other, port) =
    if other = id then (es.lookup port).or (cache.get? (other, port))
    else cache.get? (other, port)
  induction es generalizing cache with
  | nil => simp [OrderedMap.setAll]
  | cons e es ih =>
    obtain ⟨p, value⟩ := e
    obtain ⟨hp, hes⟩ := List.nodup_cons.mp hes
    have hrest := ih (cache.set (id, p) value) hes
    rw [OrderedMap.get?_set] at hrest
    refine hrest.trans ?_
    by_cases hid : other = id
    · by_cases hport : port = p
      · subst hport
        simp [hid, OrderedMap.lookup_eq_none hp]
      · simp [hid, hport, List.lookup_cons, beq_eq_false_iff_ne.mpr hport]
    · simp [hid]

namespace Graph

variable {κ ν : Type}

/-- The value an edge carries, if its source produced one. -/
def carried (cache : OutputCache ν) (e : Edge) : Option ν := cache.get? (e.fromNode, e.fromPort)

/-- The edges into one input slot of a node, in edge order. -/
def slotEdges (g : Graph κ ν) (id : NodeId) (slot : Nat) : List Edge :=
  g.edges.filter fun e => e.toNode = id ∧ e.toPort.toNat = slot

/-- Filling slots keeps their number. -/
theorem length_foldl_fillSlot (cache : OutputCache ν) (es : List Edge) (slots : List ν) :
    (es.foldl (fillSlot cache) slots).length = slots.length := by
  induction es generalizing slots with
  | nil => rfl
  | cons e es ih =>
    rw [List.foldl_cons, ih, fillSlot]
    split <;> simp

variable [Inhabited ν]

/-- What arrives over edges into one slot: the value of the last of them whose source produced one,
and the default value if there is no such edge. -/
def lastCarried (cache : OutputCache ν) (es : List Edge) : ν :=
  ((es.filter fun e => (carried cache e).isSome).getLast?.bind (carried cache)).getD default

/-- Edges whose sources hold the same values bring the same. -/
theorem lastCarried_congr {cache cache' : OutputCache ν} {es : List Edge}
    (h : ∀ e ∈ es, carried cache e = carried cache' e) :
    lastCarried cache es = lastCarried cache' es := by
  have hfilter : es.filter (fun e => (carried cache e).isSome) =
      es.filter fun e => (carried cache' e).isSome :=
    List.filter_congr fun e he => by rw [h e he]
  unfold lastCarried
  rw [hfilter]
  cases hlast : (es.filter fun e => (carried cache' e).isSome).getLast? with
  | none => rfl
  | some e =>
    have he : e ∈ es := (List.mem_filter.mp (List.mem_of_getLast? hlast)).1
    simp only [Option.bind_some, h e he]

/-- One more edge brings its own value, if its source produced one. -/
theorem lastCarried_append_singleton (cache : OutputCache ν) (es : List Edge) (e : Edge) :
    lastCarried cache (es ++ [e]) = (carried cache e).getD (lastCarried cache es) := by
  unfold lastCarried
  cases he : carried cache e with
  | none => simp [he]
  | some value => simp [he]

/-- Filling default slots leaves in each of them what the edges into it bring. -/
theorem getElem?_foldl_fillSlot (cache : OutputCache ν) (es : List Edge) {count slot : Nat}
    (h : slot < count) :
    (es.foldl (fillSlot cache) (List.replicate count default))[slot]? =
      some (lastCarried cache (es.filter fun e => e.toPort.toNat = slot)) := by
  induction es using List.reverseRecOn with
  | nil => simp [lastCarried, h]
  | append_singleton es e ih =>
    have hlength := length_foldl_fillSlot cache es (List.replicate count default)
    rw [List.length_replicate] at hlength
    rw [List.foldl_append, List.filter_append, List.foldl_cons, List.foldl_nil, fillSlot]
    by_cases hport : e.toPort.toNat = slot
    · have hsingle : [e].filter (fun e => e.toPort.toNat = slot) = [e] := by simp [hport]
      rw [hsingle, lastCarried_append_singleton]
      cases hvalue : cache.get? (e.fromNode, e.fromPort) with
      | none => simpa [carried, hvalue] using ih
      | some value => simp [carried, hvalue, hport, hlength, h]
    · have hsingle : [e].filter (fun e => e.toPort.toNat = slot) = [] := by simp [hport]
      rw [hsingle, List.append_nil]
      cases hvalue : cache.get? (e.fromNode, e.fromPort) with
      | none => exact ih
      | some value => rw [List.getElem?_set_ne hport, ih]

variable [NodeFamily κ]

/-- A node has one input for each slot: what the edges into the slot bring. -/
theorem inputsOf_eq_map (g : Graph κ ν) (cache : OutputCache ν) (n : Node κ) :
    g.inputsOf cache n =
      (List.range n.inputCount).map fun slot => lastCarried cache (g.slotEdges n.id slot) := by
  apply List.ext_getElem?
  intro slot
  by_cases hslot : slot < n.inputCount
  · have hedges : (g.edgesInto n.id).filter (fun e => e.toPort.toNat = slot) =
        g.slotEdges n.id slot := by
      simp only [edgesInto, slotEdges, List.filter_filter]
      apply List.filter_congr
      intro e _
      simp [Bool.and_comm]
    rw [inputsOf, getElem?_foldl_fillSlot cache _ hslot, hedges]
    simp [hslot]
  · have hlength : (g.inputsOf cache n).length = n.inputCount := by
      simp [inputsOf, length_foldl_fillSlot]
    rw [List.getElem?_eq_none (by omega), List.getElem?_eq_none (by simpa using hslot)]

/-- Caches that agree on the sources of the edges into a node give it the same inputs. -/
theorem inputsOf_congr {g : Graph κ ν} {cache cache' : OutputCache ν} {n : Node κ}
    (h : ∀ e ∈ g.edges, e.toNode = n.id → carried cache e = carried cache' e) :
    g.inputsOf cache n = g.inputsOf cache' n := by
  rw [inputsOf_eq_map, inputsOf_eq_map]
  apply List.map_congr_left
  intro slot _
  apply lastCarried_congr
  intro e he
  obtain ⟨he, hto⟩ := List.mem_filter.mp he
  exact h e he (of_decide_eq_true hto).1

/-- What a node yields on a port when its inputs are read from a cache. -/
def yielded (g : Graph κ ν) (evaluate : Evaluator κ ν) (cache : OutputCache ν) (id : NodeId)
    (port : PortIndex) : Option ν :=
  (g.node? id).bind fun n => (evaluate n (g.inputsOf cache n)).get? port

/-- The nodes in `done` have what they yield, and nothing is cached for any other. -/
def Settled (g : Graph κ ν) (evaluate : Evaluator κ ν) (done : List NodeId)
    (cache : OutputCache ν) : Prop :=
  ∀ id port, cache.get? (id, port) = if id ∈ done then g.yielded evaluate cache id port else none

/-- What a node yields depends on the sources of the edges into it only. -/
theorem yielded_congr {g : Graph κ ν} (evaluate : Evaluator κ ν) {cache cache' : OutputCache ν}
    {id : NodeId} (h : ∀ e ∈ g.edges, e.toNode = id → carried cache e = carried cache' e)
    (port : PortIndex) : g.yielded evaluate cache id port = g.yielded evaluate cache' id port := by
  unfold yielded
  cases hn : g.node? id with
  | none => rfl
  | some n =>
    obtain ⟨_, rfl⟩ := node?_eq_some_iff.mp hn
    simp only [Option.bind_some, inputsOf_congr h]

/-- Evaluating the next node of an order that respects the edges settles it. -/
theorem Settled.store {g : Graph κ ν} {evaluate : Evaluator κ ν} {done rest : List NodeId}
    {cache : OutputCache ν} {n : Node κ} (h : g.Settled evaluate done cache)
    (hn : g.node? n.id = some n) (hnew : n.id ∉ done)
    (htop : Topological g.nodeIds g.edges (done ++ n.id :: rest)) :
    g.Settled evaluate (done ++ [n.id])
      (cache.store n.id (evaluate n (g.inputsOf cache n))) := by
  have hcarried : ∀ e ∈ g.edges, e.toNode ∈ done ++ [n.id] →
      carried (cache.store n.id (evaluate n (g.inputsOf cache n))) e = carried cache e := by
    intro e he hto
    have hne : e.fromNode ≠ n.id := fun heq => hnew (heq ▸ htop.source_mem he hto)
    simp only [carried, OutputCache.get?_store, if_neg hne]
  have hyielded : ∀ id ∈ done ++ [n.id], ∀ port,
      g.yielded evaluate (cache.store n.id (evaluate n (g.inputsOf cache n))) id port =
        g.yielded evaluate cache id port := fun id hid port =>
    yielded_congr evaluate (fun e he hto => hcarried e he (hto ▸ hid)) port
  intro id port
  rw [OutputCache.get?_store]
  by_cases hid : id = n.id
  · subst hid
    have hnone : cache.get? (n.id, port) = none := by rw [h n.id port, if_neg hnew]
    have hmem : n.id ∈ done ++ [n.id] := by simp
    rw [if_pos rfl, if_pos hmem, hyielded _ hmem, hnone, Option.or_none, yielded, hn]
    rfl
  · rw [if_neg hid, h id port]
    by_cases hdone : id ∈ done
    · have hmem : id ∈ done ++ [n.id] := List.mem_append_left _ hdone
      rw [if_pos hdone, if_pos hmem, hyielded id hmem]
    · have hmem : id ∉ done ++ [n.id] := by simp [hdone, hid]
      rw [if_neg hdone, if_neg hmem]

/-- Evaluating the rest of an order that respects the edges succeeds and settles all of it. -/
theorem Settled.foldlM {g : Graph κ ν} {evaluate : Evaluator κ ν} {done rest : List NodeId}
    {cache : OutputCache ν} (h : g.Settled evaluate done cache)
    (htop : Topological g.nodeIds g.edges (done ++ rest)) :
    ∃ outputs, rest.foldlM (g.evaluateNode evaluate) cache = .ok outputs ∧
      g.Settled evaluate (done ++ rest) outputs := by
  induction rest generalizing done cache with
  | nil => exact ⟨cache, rfl, by rwa [List.append_nil]⟩
  | cons id rest ih =>
    have hid : id ∈ g.nodeIds := (htop.mem_iff id).mp (by simp)
    obtain ⟨n, hn⟩ := exists_node?_iff.mpr hid
    obtain ⟨_, rfl⟩ := node?_eq_some_iff.mp hn
    have hnew : n.id ∉ done := fun hmem =>
      (List.nodup_append.mp htop.nodup).2.2 n.id hmem n.id (List.mem_cons_self ..) rfl
    rw [List.append_cons] at htop ⊢
    have hstored := h.store hn hnew (by rwa [List.append_cons])
    obtain ⟨outputs, hrun, hsettled⟩ := ih hstored htop
    refine ⟨outputs, ?_, hsettled⟩
    rw [List.foldlM_cons, evaluateNode, hn]
    exact hrun

/-- The equations of a graph: every node has what it yields, and nothing else is cached. -/
def Solves (g : Graph κ ν) (evaluate : Evaluator κ ν) (outputs : OutputCache ν) : Prop :=
  ∀ id port, outputs.get? (id, port) = g.yielded evaluate outputs id port

/-- Caches that solve the equations of two graphs agree on a part of the first graph that has the
sources of all edges into it, if there both graphs yield the same from caches that agree on what
these edges carry. -/
theorem Solves.get?_eq {g₁ g₂ : Graph κ ν} {evaluate₁ evaluate₂ : Evaluator κ ν}
    {outputs₁ outputs₂ : OutputCache ν} (h₁ : g₁.Solves evaluate₁ outputs₁)
    (h₂ : g₂.Solves evaluate₂ outputs₂) {order : List NodeId}
    (htop : Topological g₁.nodeIds g₁.edges order) {P : NodeId → Prop}
    (hsource : ∀ e ∈ g₁.edges, P e.toNode → P e.fromNode)
    (hyielded : ∀ id, P id →
      (∀ e ∈ g₁.edges, e.toNode = id → carried outputs₁ e = carried outputs₂ e) →
      ∀ port, g₁.yielded evaluate₁ outputs₁ id port = g₂.yielded evaluate₂ outputs₂ id port)
    {id : NodeId} (hid : P id) (port : PortIndex) :
    outputs₁.get? (id, port) = outputs₂.get? (id, port) := by
  induction hplace : order.idxOf id using Nat.strong_induction_on generalizing id port with
  | h place ih =>
    subst hplace
    rw [h₁ id port, h₂ id port]
    refine hyielded id hid (fun e he hto => ?_) port
    have hbefore : order.idxOf e.fromNode < order.idxOf id := hto ▸ htop.precedes e he
    exact ih _ hbefore (hsource e he (hto ▸ hid)) e.fromPort rfl

/-- Running a graph in its schedule succeeds and solves its equations. -/
theorem exists_run_solves {g : Graph κ ν} (h : g.schedule = .ok g.order)
    (evaluate : Evaluator κ ν) :
    ∃ outputs, g.run evaluate = .ok outputs ∧ g.Solves evaluate outputs := by
  have htop : Topological g.nodeIds g.edges ([] ++ g.order) := topological_of_schedule h
  have hempty : g.Settled evaluate [] .empty := fun _ _ => rfl
  obtain ⟨outputs, hrun, hsettled⟩ := hempty.foldlM htop
  refine ⟨outputs, hrun, fun id port => ?_⟩
  rw [hsettled id port, List.nil_append]
  split
  · rfl
  · rename_i hid
    have hnone : g.node? id = none := by
      cases hn : g.node? id with
      | none => rfl
      | some n => exact absurd ((htop.mem_iff id).mpr (exists_node?_iff.mp ⟨n, hn⟩)) hid
    simp [yielded, hnone]

/-- Executing a fresh graph that is marked as compiled succeeds. The cached values then solve the
equations of the graph, and nothing else has changed. -/
theorem Fresh.exists_execute_solves {g : Graph κ ν} (h : g.Fresh) (hc : g.compiled = true)
    (evaluate : Evaluator κ ν) :
    ∃ outputs, g.execute evaluate = ({ g with outputs }, .ok ()) ∧ g.Solves evaluate outputs := by
  obtain ⟨outputs, hrun, hsolves⟩ := exists_run_solves (h hc) evaluate
  exact ⟨outputs, execute_of_run hc hrun, hsolves⟩

/-- A graph that has come about and is marked as compiled executes, and the cache then has exactly
the values of the dataflow: a value lies on a port just when a node of the graph yields it there
from inputs that are, slot by slot, the value at the source of the last edge into the slot among
those whose source yields one, and the default value where there is no such edge. -/
theorem execute_built_eq_dataflow (name : String) (ops : List (Op κ ν))
    (hc : (built name ops).compiled = true) (evaluate : Evaluator κ ν) :
    ∃ outputs : OutputCache ν,
      (built name ops).execute evaluate = ({ built name ops with outputs }, .ok ()) ∧
      ∀ id port value, outputs.get? (id, port) = some value ↔
        ∃ n ∈ (built name ops).nodes, n.id = id ∧
          (evaluate n ((List.range n.inputCount).map fun slot =>
            lastCarried outputs ((built name ops).slotEdges id slot))).get? port = some value := by
  obtain ⟨outputs, hexecute, hsolves⟩ := (fresh_built name ops).exists_execute_solves hc evaluate
  refine ⟨outputs, hexecute, fun id port value => ?_⟩
  rw [hsolves id port, yielded, Option.bind_eq_some_iff]
  constructor
  · rintro ⟨n, hn, hvalue⟩
    obtain ⟨hmem, rfl⟩ := node?_eq_some_iff.mp hn
    rw [inputsOf_eq_map] at hvalue
    exact ⟨n, hmem, rfl, hvalue⟩
  · rintro ⟨n, hmem, rfl, hvalue⟩
    rw [← inputsOf_eq_map] at hvalue
    exact ⟨n, node?_eq_some_iff.mpr ⟨hmem, rfl⟩, hvalue⟩

/-- The doubling graph is compiled, and its execution is its dataflow. -/
theorem execute_twiceIntoSink_eq_dataflow :
    (built "Double" Calc.twiceIntoSink).compiled = true ∧
    ∃ outputs : OutputCache Int,
      (built "Double" Calc.twiceIntoSink).execute Calc.evaluate =
        ({ built "Double" Calc.twiceIntoSink with outputs }, .ok ()) ∧
      ∀ id port value, outputs.get? (id, port) = some value ↔
        ∃ n ∈ (built "Double" Calc.twiceIntoSink).nodes, n.id = id ∧
          (Calc.evaluate n ((List.range n.inputCount).map fun slot =>
            lastCarried outputs
              ((built "Double" Calc.twiceIntoSink).slotEdges id slot))).get? port =
            some value := by
  have hcompiled : (built "Double" Calc.twiceIntoSink).compiled = true := rfl
  exact ⟨hcompiled,
    execute_built_eq_dataflow "Double" Calc.twiceIntoSink hcompiled Calc.evaluate⟩

end Graph

end Shipwright
