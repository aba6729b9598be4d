import Shipwright.Proofs.Graph.Calculator
import Shipwright.Proofs.Graph.Compile
import Shipwright.Proofs.Graph.Freshness
import Mathlib.Algebra.Ring.Nat

/-!
# Edits that connect nothing

A graph that compiles still compiles after any edits but new edges. No such edit closes a
circle, and none leaves an edge hanging: the edges that are left are some of the old ones in
their old order, and none of them touches a node that was removed. So the nodes at their ends
are still there, of the kinds they had.

What has to be ruled out is a node put in the place of another one. Numbers are 32-bit words
that start over when they are used up, and an added node replaces the one that still has its
number and takes over the edges. Up to 2³² additions this does not happen, nor later on as long
as the old nodes are gone by then. The next addition may do it, and then a graph that was given
no new edge no longer compiles.
-/

namespace Shipwright

namespace Graph

variable {κ ν : Type}

namespace Op

/-- Whether an operation removes a node. -/
def removes (id : NodeId) : Op κ ν → Bool
  | .removeNode other => id = other
  | _ => false

/-- Whether an operation takes an edge out, by itself or with one of its ends. -/
def drops (e : Edge) : Op κ ν → Bool
  | .removeNode id => e.involves id
  | .removeEdge other => e = other
  | _ => false

/-- Whether an operation adds a node. -/
def addsNode : Op κ ν → Bool
  | .addNode _ => true
  | _ => false

end Op

/-- The numbers and kinds of all nodes in insertion order. -/
def roster (g : Graph κ ν) : List (NodeId × κ) := g.nodes.map fun n => (n.id, n.kind)

/-- If an operation adds a node, the node gets a number that no node of the graph has. -/
def NumbersAnew (g : Graph κ ν) (op : Op κ ν) : Prop := op.addsNode = true → ⟨g.nextId⟩ ∉ g.nodeIds

/-- As many nodes as `count` have been added, and they have got the numbers from 1 on. -/
structure NumberedUpTo (g : Graph κ ν) (count : Nat) : Prop where
  /-- The next number is the next one up. -/
  next : g.nextId = .ofNat (count + 1)
  /-- The numbers given out so far are those before it. -/
  mem : ∀ id ∈ g.nodeIds, ∃ k < count, id = ⟨.ofNat (k + 1)⟩

/-- The numbers of the nodes are those in the roster. -/
theorem map_fst_roster (g : Graph κ ν) : g.roster.map Prod.fst = g.nodeIds := by
  rw [roster, List.map_map]
  rfl

/-- A property changes no node's number or kind. -/
theorem roster_setProperty (g : Graph κ ν) (id : NodeId) (key value : String) :
    (g.setProperty id key value).1.roster = g.roster := by
  unfold setProperty
  split
  · simp only [roster, setPropertyOf, List.map_map, List.map_inj_left, Function.comp_apply]
    intro n _
    split <;> rfl
  · rfl

/-- The node that is added has the number that was next. -/
theorem node?_addNode (g : Graph κ ν) (kind : κ) :
    (g.addNode kind).1.node? ⟨g.nextId⟩ = some (Node.ofKind ⟨g.nextId⟩ kind) :=
  node?_eq_some_iff.mpr ⟨OrderedMap.mem_put_self .., rfl⟩

/-- A node that is added leaves those of other numbers. -/
theorem node?_addNode_of_ne {g : Graph κ ν} {id : NodeId} {n : Node κ} (kind : κ)
    (h : g.node? id = some n) (hne : id ≠ ⟨g.nextId⟩) : (g.addNode kind).1.node? id = some n := by
  obtain ⟨hn, rfl⟩ := node?_eq_some_iff.mp h
  exact node?_eq_some_iff.mpr ⟨OrderedMap.mem_put_of_mem hn hne, rfl⟩

/-- An operation that removes a node takes out every edge that touches it. -/
theorem Op.involves_of_removes {op : Op κ ν} {id : NodeId} {e : Edge} (h : op.removes id = true)
    (hdrops : op.drops e = false) : e.involves id = false := by
  cases op with
  | removeNode other =>
    obtain rfl : id = other := of_decide_eq_true h
    exact hdrops
  | _ => exact absurd h Bool.false_ne_true

/-- No node of an empty graph has a number yet. -/
theorem numberedUpTo_empty (name : String) : (empty name : Graph κ ν).NumberedUpTo 0 :=
  ⟨rfl, fun _ hid => nomatch hid⟩

/-- Nodes that were numbered up to a count are still so where there are no others. -/
theorem NumberedUpTo.of_subset {g g' : Graph κ ν} {count : Nat} (h : g.NumberedUpTo count)
    (hnext : g'.nextId = g.nextId) (hsub : g'.nodeIds ⊆ g.nodeIds) : g'.NumberedUpTo count :=
  ⟨hnext ▸ h.next, fun id hid => h.mem id (hsub hid)⟩

/-- The next number is none of those given out as long as there are numbers left. -/
theorem NumberedUpTo.nextId_notMem {g : Graph κ ν} {count : Nat} (h : g.NumberedUpTo count)
    (hfew : count < 2 ^ 32) : ⟨g.nextId⟩ ∉ g.nodeIds := by
  intro hmem
  obtain ⟨k, hk, hid⟩ := h.mem _ hmem
  have hwords : UInt32.ofNat (count + 1) = UInt32.ofNat (k + 1) :=
    h.next.symm.trans (congrArg NodeId.val hid)
  have hmod : (count + 1) % 2 ^ 32 = (k + 1) % 2 ^ 32 := by
    simpa only [UInt32.toNat_ofNat'] using congrArg UInt32.toNat hwords
  omega

section Edits

variable [NodeFamily κ]

/-- Compiling succeeds exactly when the edges resolve and run in no circle. -/
theorem compile_eq_ok_iff_resolves {g : Graph κ ν} :
    g.compile.2 = .ok () ↔ (∀ e ∈ g.edges, g.Resolves e) ∧ Acyclic g.edges := by
  rw [compile_eq_ok_iff]
  constructor
  · rintro ⟨order, h⟩
    obtain ⟨hresolves, hacyclic, _⟩ := schedule_eq_ok_iff.mp h
    exact ⟨hresolves, hacyclic⟩
  · rintro ⟨hresolves, hacyclic⟩
    exact ⟨_, schedule_eq_ok_iff.mpr ⟨hresolves, hacyclic, rfl⟩⟩

/-- An edge resolves in a graph that has nodes of the same kinds at its ends. -/
theorem Resolves.of_roster {g g' : Graph κ ν} {e : Edge} (h : g.Resolves e)
    (hkept : ∀ entry ∈ g.roster, e.involves entry.1 = true → entry ∈ g'.roster) :
    g'.Resolves e := by
  have hend : ∀ n ∈ g.nodes, e.involves n.id = true →
      ∃ n' ∈ g'.nodes, n'.id = n.id ∧ n'.kind = n.kind := by
    intro n hn hinvolves
    obtain ⟨n', hn', heq⟩ :=
      List.mem_map.mp (hkept (n.id, n.kind) (List.mem_map_of_mem hn) hinvolves)
    exact ⟨n', hn', congrArg Prod.fst heq, congrArg Prod.snd heq⟩
  obtain ⟨source, hs, target, ht, hsid, htid, output, input, ho, hi, hfits⟩ := h
  obtain ⟨source', hs', hsid', hskind⟩ := hend source hs (by simp [Edge.involves, hsid])
  obtain ⟨target', ht', htid', htkind⟩ := hend target ht (by simp [Edge.involves, htid])
  rw [← hskind] at ho
  rw [← htkind] at hi
  exact ⟨source', hs', target', ht', hsid'.trans hsid, htid'.trans htid, output, input, ho, hi,
    hfits⟩

variable [Inhabited ν]

/-- An operation that adds no edge leaves the edges it does not take out, in their order. -/
theorem edges_apply (g : Graph κ ν) {op : Op κ ν} (hop : ∀ e, op ≠ .addEdge e) :
    (g.apply op).edges = g.edges.filter (!op.drops ·) := by
  cases op with
  | addNode kind => simp [Graph.apply, addNode, Op.drops]
  | setProperty id key value =>
    simp only [Graph.apply, setProperty]
    split <;> simp [Op.drops]
  | removeNode id => rfl
  | addEdge e => exact absurd rfl (hop e)
  | removeEdge e => simp [Graph.apply, removeEdge, Op.drops]
  | invalidate => simp [Graph.apply, invalidate, Op.drops]
  | compile =>
    have hplan : (g.apply .compile).nodes = g.nodes ∧ (g.apply .compile).edges = g.edges :=
      plan_apply g rfl
    simp [hplan.2, Op.drops]
  | execute evaluate =>
    obtain ⟨outputs, hexecute⟩ := execute_eq_withOutputs g evaluate
    simp [Graph.apply, hexecute, Op.drops]
  | clone => simp [Graph.apply, Op.drops]

/-- An operation leaves the nodes it does not remove, in their order and of their kinds, and puts
the one that it adds behind them. -/
theorem exists_roster_apply {g : Graph κ ν} {op : Op κ ν} (h : g.NumbersAnew op) :
    ∃ new, (g.apply op).roster = g.roster.filter (!op.removes ·.1) ++ new := by
  have hkept : op.keepsPlan = true → (∀ id, op.removes id = false) →
      (g.apply op).roster = g.roster.filter (!op.removes ·.1) ++ [] := by
    intro hplan hremoves
    simp [roster, (plan_apply g hplan).1, hremoves]
  cases op with
  | addNode kind =>
    have hput : OrderedMap.put Node.id (Node.ofKind ⟨g.nextId⟩ kind) g.nodes =
        g.nodes ++ [Node.ofKind ⟨g.nextId⟩ kind] := OrderedMap.put_of_notMem (h rfl)
    refine ⟨[(⟨g.nextId⟩, kind)], ?_⟩
    simp only [Graph.apply, addNode, roster, hput, Op.removes]
    simp [Node.ofKind]
  | setProperty id key value =>
    exact ⟨[], by simp [Graph.apply, roster_setProperty, Op.removes]⟩
  | removeNode id =>
    refine ⟨[], ?_⟩
    simp [Graph.apply, removeNode, roster, Op.removes, List.filter_map, Function.comp_def]
  | addEdge e => exact ⟨[], by simp [Graph.apply, addEdge, roster, Op.removes]⟩
  | removeEdge e => exact ⟨[], by simp [Graph.apply, removeEdge, roster, Op.removes]⟩
  | invalidate => exact ⟨[], hkept rfl fun _ => rfl⟩
  | compile => exact ⟨[], hkept rfl fun _ => rfl⟩
  | execute evaluate => exact ⟨[], hkept rfl fun _ => rfl⟩
  | clone => exact ⟨[], hkept rfl fun _ => rfl⟩

/-- An operation leaves the numbers of the nodes it does not remove in their order, and puts a new
one behind them at most. -/
theorem exists_nodeIds_apply (g : Graph κ ν) (op : Op κ ν) :
    ∃ new, (g.apply op).nodeIds = g.nodeIds.filter (!op.removes ·) ++ new := by
  by_cases hnew : g.NumbersAnew op
  · obtain ⟨new, hroster⟩ := exists_roster_apply hnew
    refine ⟨new.map Prod.fst, ?_⟩
    rw [← map_fst_roster, ← map_fst_roster, hroster, List.map_append, List.filter_map]
    rfl
  · obtain ⟨hadds, hmem⟩ := Classical.not_imp.mp hnew
    cases op with
    | addNode kind =>
      refine ⟨[], ?_⟩
      have hids : (g.apply (.addNode kind)).nodeIds =
          if ⟨g.nextId⟩ ∈ g.nodeIds then g.nodeIds else g.nodeIds ++ [⟨g.nextId⟩] :=
        OrderedMap.map_put ..
      rw [hids, if_pos (Classical.not_not.mp hmem)]
      simp [Op.removes]
    | _ => exact absurd hadds Bool.false_ne_true

/-- A graph that compiles does so after an operation that adds no edge and no node in the place of
another one. -/
theorem compile_apply_eq_ok {g : Graph κ ν} {op : Op κ ν} (h : g.compile.2 = .ok ())
    (hop : ∀ e, op ≠ .addEdge e) (hnew : g.NumbersAnew op) : (g.apply op).compile.2 = .ok () := by
  obtain ⟨hresolves, hacyclic⟩ := compile_eq_ok_iff_resolves.mp h
  obtain ⟨new, hroster⟩ := exists_roster_apply hnew
  rw [compile_eq_ok_iff_resolves, edges_apply g hop]
  refine ⟨fun e he => ?_, hacyclic.mono (List.filter_subset_self _)⟩
  obtain ⟨he, hdrops⟩ := List.mem_filter.mp he
  refine (hresolves e he).of_roster fun entry hentry hinvolves => ?_
  rw [hroster]
  refine List.mem_append_left _ (List.mem_filter.mpr ⟨hentry, ?_⟩)
  cases hremoves : op.removes entry.1 with
  | false => rfl
  | true =>
    rw [Op.involves_of_removes hremoves (by simpa using hdrops)] at hinvolves
    contradiction

/-- Operations that add no edge leave the edges that none of them takes out, in their order. -/
theorem edges_applyAll {ops : List (Op κ ν)} (g : Graph κ ν) (hops : ∀ e, .addEdge e ∉ ops) :
    (g.applyAll ops).edges = g.edges.filter fun e => !ops.any (·.drops e) := by
  induction ops generalizing g with
  | nil => simp [applyAll]
  | cons op ops ih =>
    have hop : ∀ e, op ≠ .addEdge e := fun e heq => hops e (heq ▸ List.mem_cons_self ..)
    have hrest : ∀ e, .addEdge e ∉ ops := fun e he => hops e (.tail _ he)
    refine (ih (g.apply op) hrest).trans ?_
    rw [edges_apply g hop, List.filter_filter]
    apply List.filter_congr
    intro e _
    rw [List.any_cons, Bool.not_or, Bool.and_comm]

/-- What each operation leaves in its order and in front of what it adds, all of them do. -/
theorem exists_append_applyAll {τ : Type} {listed : Graph κ ν → List τ} {gone : Op κ ν → τ → Bool}
    {P : Graph κ ν → Op κ ν → Prop}
    (hstep : ∀ g op, P g op → ∃ new, listed (g.apply op) = (listed g).filter (!gone op ·) ++ new)
    {ops : List (Op κ ν)} {g : Graph κ ν} (h : Throughout P g ops) :
    ∃ new, listed (g.applyAll ops) =
      ((listed g).filter fun x => !ops.any (gone · x)) ++ new := by
  induction ops generalizing g with
  | nil => exact ⟨[], by simp [applyAll]⟩
  | cons op ops ih =>
    obtain ⟨added, hfirst⟩ := hstep g op h.1
    obtain ⟨new, hrest⟩ := ih h.2
    refine ⟨(added.filter fun x => !ops.any (gone · x)) ++ new, hrest.trans ?_⟩
    rw [hfirst, List.filter_append, List.filter_filter, List.append_assoc]
    congr 1
    apply List.filter_congr
    intro x _
    rw [List.any_cons, Bool.not_or, Bool.and_comm]

/-- Operations that number every node anew leave the nodes that none of them removes, in their order
and of their kinds, in front of those that are added. -/
theorem exists_roster_applyAll {ops : List (Op κ ν)} {g : Graph κ ν}
    (h : Throughout NumbersAnew g ops) :
    ∃ new, (g.applyAll ops).roster =
      (g.roster.filter fun entry => !ops.any (·.removes entry.1)) ++ new :=
  exists_append_applyAll (fun _ _ => exists_roster_apply) h

/-- Operations leave the numbers that none of them removes in their order, in front of others. -/
theorem exists_nodeIds_applyAll (g : Graph κ ν) (ops : List (Op κ ν)) :
    ∃ new, (g.applyAll ops).nodeIds =
      (g.nodeIds.filter fun id => !ops.any (·.removes id)) ++ new := by
  have hall : Throughout (fun _ _ => True) g ops := by
    induction ops generalizing g with
    | nil => trivial
    | cons op ops ih => exact ⟨trivial, ih _⟩
  exact exists_append_applyAll (fun g op _ => exists_nodeIds_apply g op) hall

/-- A graph that compiles does so after operations that add no edge and number every node anew. -/
theorem compile_applyAll_eq_ok {ops : List (Op κ ν)} {g : Graph κ ν} (h : g.compile.2 = .ok ())
    (hops : ∀ e, .addEdge e ∉ ops) (hnew : Throughout NumbersAnew g ops) :
    (g.applyAll ops).compile.2 = .ok () := by
  induction ops generalizing g with
  | nil => exact h
  | cons op ops ih =>
    have hop : ∀ e, op ≠ .addEdge e := fun e heq => hops e (heq ▸ List.mem_cons_self ..)
    exact ih (compile_apply_eq_ok h hop hnew.1) (fun e he => hops e (.tail _ he)) hnew.2

/-- An operation keeps the nodes numbered up to how many have been added. -/
theorem NumberedUpTo.apply {g : Graph κ ν} {count : Nat} (h : g.NumberedUpTo count)
    (op : Op κ ν) : (g.apply op).NumberedUpTo (count + if op.addsNode then 1 else 0) := by
  cases op with
  | addNode kind =>
    refine ⟨?_, fun id hid => ?_⟩
    · change g.nextId + 1 = .ofNat (count + 1 + 1)
      rw [h.next, UInt32.ofNat_add (count + 1) 1]
      rfl
    · change id ∈ (OrderedMap.put Node.id (Node.ofKind ⟨g.nextId⟩ kind) g.nodes).map Node.id at hid
      rw [OrderedMap.map_put] at hid
      have hold : id ∈ g.nodeIds ∨ id = ⟨g.nextId⟩ := by
        split at hid
        · exact .inl hid
        · exact (List.mem_append.mp hid).imp_right List.mem_singleton.mp
      rcases hold with hid | rfl
      · obtain ⟨k, hk, hid⟩ := h.mem id hid
        exact ⟨k, Nat.lt_succ_of_lt hk, hid⟩
      · exact ⟨count, Nat.lt_succ_self count, congrArg NodeId.mk h.next⟩
  | setProperty id key value =>
    refine h.of_subset ?_ ?_
    · simp only [Graph.apply, setProperty]
      split <;> rfl
    · simp [Graph.apply]
  | removeNode id => exact h.of_subset rfl (List.map_subset _ (List.filter_subset_self _))
  | addEdge e => exact h.of_subset rfl (List.Subset.refl _)
  | removeEdge e => exact h.of_subset rfl (List.Subset.refl _)
  | invalidate => exact h.of_subset rfl (List.Subset.refl _)
  | compile =>
    have hplan : (g.apply .compile).nodes = g.nodes ∧ (g.apply .compile).edges = g.edges :=
      plan_apply g rfl
    refine h.of_subset ?_ (by simp [nodeIds, hplan.1])
    simp only [Graph.apply, compile]
    split <;> rfl
  | execute evaluate =>
    obtain ⟨outputs, hexecute⟩ := execute_eq_withOutputs g evaluate
    change (g.execute evaluate).1.NumberedUpTo count
    rw [hexecute]
    exact h.of_subset rfl (List.Subset.refl _)
  | clone => exact h.of_subset rfl (List.Subset.refl _)

/-- Operations keep the nodes numbered up to how many have been added. -/
theorem NumberedUpTo.applyAll {ops : List (Op κ ν)} {g : Graph κ ν} {count : Nat}
    (h : g.NumberedUpTo count) :
    (g.applyAll ops).NumberedUpTo (count + ops.countP Op.addsNode) := by
  induction ops generalizing g count with
  | nil => exact h
  | cons op ops ih =>
    have hcount : count + (op :: ops).countP Op.addsNode =
        count + (if op.addsNode then 1 else 0) + ops.countP Op.addsNode := by
      rw [List.countP_cons]
      omega
    rw [hcount]
    exact ih (h.apply op)

/-- As long as the numbers last, every node is numbered anew. -/
theorem NumberedUpTo.throughout {ops : List (Op κ ν)} {g : Graph κ ν} {count : Nat}
    (h : g.NumberedUpTo count) (hfew : count + ops.countP Op.addsNode ≤ 2 ^ 32) :
    Throughout NumbersAnew g ops := by
  induction ops generalizing g count with
  | nil => trivial
  | cons op ops ih =>
    rw [List.countP_cons] at hfew
    refine ⟨fun hadds => h.nextId_notMem ?_, ih (h.apply op) (by omega)⟩
    rw [if_pos hadds] at hfew
    omega

end Edits

/-- A flood adds constants and nothing else. -/
theorem eq_of_mem_flood {count : Nat} {op : Op Calc Int} (h : op ∈ Calc.flood count) :
    op = .addNode .constant := List.eq_of_mem_replicate h

@[simp] theorem countP_flood (count : Nat) : (Calc.flood count).countP Op.addsNode = count := by
  simp [Calc.flood, List.countP_replicate, Op.addsNode]

/-- What is not done by adding a constant is not done by a flood. -/
theorem any_flood {check : Op Calc Int → Bool} (h : check (.addNode .constant) = false)
    (count : Nat) : (Calc.flood count).any check = false := by
  rw [List.any_eq_false]
  intro op hop
  rw [eq_of_mem_flood hop, h]
  exact Bool.false_ne_true

/-- A flood over the two nodes of the joined graph takes as many numbers more. -/
theorem nextId_flooded (count : Nat) :
    ((built "Joined" Calc.joined).applyAll (Calc.flood count)).nextId = .ofNat (2 + count + 1) := by
  have hjoined : (built "Joined" Calc.joined).NumberedUpTo 2 :=
    (numberedUpTo_empty "Joined" : (empty "Joined" : Graph Calc Int).NumberedUpTo 0).applyAll
  have hflooded : ((built "Joined" Calc.joined).applyAll (Calc.flood count)).NumberedUpTo
      (2 + (Calc.flood count).countP Op.addsNode) := hjoined.applyAll
  rw [countP_flood] at hflooded
  exact hflooded.next

/-- The edge of the joined graph outlasts a flood. -/
theorem edges_flooded (count : Nat) :
    ((built "Joined" Calc.joined).applyAll (Calc.flood count)).edges = [⟨⟨1⟩, 0, ⟨2⟩, 0⟩] := by
  have hdrops (e : Edge) : (Calc.flood count).any (·.drops e) = false := any_flood rfl count
  rw [edges_applyAll _ fun e he => nomatch eq_of_mem_flood he]
  simp only [hdrops]
  exact List.filter_eq_self.mpr fun _ _ => rfl

/-- The sink of the joined graph outlasts a flood. -/
theorem exists_sink_flooded (count : Nat) :
    ∃ n, ((built "Joined" Calc.joined).applyAll (Calc.flood count)).node? ⟨2⟩ = some n := by
  obtain ⟨new, hids⟩ := exists_nodeIds_applyAll (built "Joined" Calc.joined) (Calc.flood count)
  have hremoves (id : NodeId) : (Calc.flood count).any (·.removes id) = false := any_flood rfl count
  rw [exists_node?_iff, hids]
  simp only [hremoves]
  exact List.mem_append_left _ (by decide)

/-- Where a flood has used up the numbers, the sink that is added then takes the place of the first
constant. -/
theorem compile_flooded {count : Nat} (hnext : UInt32.ofNat (2 + count + 1) = 1) :
    ((built "Joined" Calc.joined).applyAll (Calc.flood count ++ [.addNode .sink])).compile.2 =
      .error (.invalidPort ⟨1⟩ 0 .output) := by
  let g := (built "Joined" Calc.joined).applyAll (Calc.flood count)
  have hone : g.nextId = 1 := (nextId_flooded count).trans hnext
  have hedges : (g.addNode .sink).1.edges = [⟨⟨1⟩, 0, ⟨2⟩, 0⟩] := edges_flooded count
  obtain ⟨n, hn⟩ := exists_sink_flooded count
  have hsource := node?_addNode g .sink
  have htarget := node?_addNode_of_ne .sink hn (by rw [hone]; decide)
  rw [hone] at hsource
  have hcheck : (g.addNode .sink).1.checkEdge ⟨⟨1⟩, 0, ⟨2⟩, 0⟩ =
      .error (.invalidPort ⟨1⟩ 0 .output) := by
    rw [checkEdge, hsource, htarget]
    rfl
  have hchecks : [⟨⟨1⟩, 0, ⟨2⟩, 0⟩].forM (g.addNode .sink).1.checkEdge =
      .error (.invalidPort ⟨1⟩ 0 .output) := by
    simp [hcheck, bind, Except.bind]
  rw [applyAll, List.foldl_append]
  change (g.addNode .sink).1.compile.2 = _
  rw [compile_eq_error_iff, schedule, hedges, hchecks]
  rfl

end Graph

end Shipwright
