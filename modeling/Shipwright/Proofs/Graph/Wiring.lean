import Shipwright.Graph.Schedule
import Mathlib.Data.Fintype.Card
import Mathlib.Data.Fintype.EquivFin
import Mathlib.Data.Fintype.Sets
import Mathlib.Order.WellFounded
import Mathlib.Logic.Relation

/-!
# Wirings

What it means for edges to fit the nodes of a graph and to run in no circle, and
for an order of the nodes to respect the edges, said without the scheduler. An
order that respects the edges leaves no room for a circle. Conversely, where each
of finitely many nodes has a predecessor among them, going backwards from any of
them comes upon a circle.
-/

namespace Shipwright

open Relation

/-- Some edge leads from the one node to the other. -/
def Leads (edges : List Edge) (a b : NodeId) : Prop :=
  ∃ e ∈ edges, e.fromNode = a ∧ e.toNode = b

/-- No path along the edges returns to where it began. -/
def Acyclic (edges : List Edge) : Prop := ∀ n, ¬ TransGen (Leads edges) n n

/-- An order has every node once, and the source of every edge strictly before its target. -/
structure Topological (nodes : List NodeId) (edges : List Edge) (order : List NodeId) : Prop where
  /-- No node comes twice. -/
  nodup : order.Nodup
  /-- The order has the nodes and nothing else. -/
  mem_iff : ∀ id, id ∈ order ↔ id ∈ nodes
  /-- Every edge leads forwards. -/
  precedes : ∀ e ∈ edges, order.idxOf e.fromNode < order.idxOf e.toNode

/-- Edges that all lead to greater ranks form no circle. -/
theorem acyclic_of_rank {edges : List Edge} (rank : NodeId → Nat)
    (h : ∀ e ∈ edges, rank e.fromNode < rank e.toNode) : Acyclic edges := by
  have hpath : ∀ {a b : NodeId}, TransGen (Leads edges) a b → rank a < rank b := by
    intro a b hab
    induction hab with
    | single hab =>
      obtain ⟨e, he, rfl, rfl⟩ := hab
      exact h e he
    | tail _ hbc ih =>
      obtain ⟨e, he, rfl, rfl⟩ := hbc
      exact ih.trans (h e he)
  exact fun _ hp => Nat.lt_irrefl _ (hpath hp)

/-- Some of the edges that form no circle form none either. -/
theorem Acyclic.mono {edges edges' : List Edge} (h : Acyclic edges) (hsub : edges' ⊆ edges) :
    Acyclic edges' := by
  have hleads : Leads edges' ≤ Leads edges := by
    rintro a b ⟨e, he, hends⟩
    exact ⟨e, hsub he, hends⟩
  exact fun n hn => h n (TransGen.mono hleads n n hn)

/-- Edges that some order respects form no circle. -/
theorem Topological.acyclic {nodes order : List NodeId} {edges : List Edge}
    (h : Topological nodes edges order) : Acyclic edges := acyclic_of_rank order.idxOf h.precedes

/-- An order that respects the edges respects some of them. -/
theorem Topological.mono {nodes order : List NodeId} {edges edges' : List Edge}
    (h : Topological nodes edges order) (hsub : edges' ⊆ edges) :
    Topological nodes edges' order :=
  ⟨h.nodup, h.mem_iff, fun e he => h.precedes e (hsub he)⟩

/-- The sources of the edges into the first nodes of such an order come before the last of them. -/
theorem Topological.source_mem {nodes done rest : List NodeId} {edges : List Edge} {id : NodeId}
    (h : Topological nodes edges (done ++ id :: rest)) {e : Edge} (he : e ∈ edges)
    (hto : e.toNode ∈ done ++ [id]) : e.fromNode ∈ done := by
  have hlt := h.precedes e he
  have hle : (done ++ id :: rest).idxOf e.toNode ≤ done.length := by
    have hshort := List.idxOf_lt_length_of_mem hto
    rw [List.append_cons, List.idxOf_append, if_pos hto]
    simpa [Nat.lt_succ_iff] using hshort
  by_contra hno
  rw [List.idxOf_append, if_neg hno] at hlt
  omega

/-- Going backwards within finitely many nodes that each have a predecessor among them comes upon
a circle, and from there a path leads to where the walk began. Without a circle one of the ancestors
would be the first. -/
theorem exists_cycle_of_predecessors {edges : List Edge} {nodes : List NodeId}
    (hpred : ∀ b ∈ nodes, ∃ a ∈ nodes, Leads edges a b) {b : NodeId} (hb : b ∈ nodes) :
    ∃ n, TransGen (Leads edges) n n ∧ ReflTransGen (Leads edges) n b := by
  by_contra hno
  let Ancestor := {a : {x // x ∈ nodes} // ReflTransGen (Leads edges) a.val b}
  let Before (x y : Ancestor) : Prop := TransGen (Leads edges) x.val.val y.val.val
  have : Finite Ancestor := Subtype.finite
  have : IsTrans Ancestor Before := ⟨fun _ _ _ hxy hyz => hxy.trans hyz⟩
  have : Std.Irrefl Before := ⟨fun x hx => hno ⟨x.val.val, hx, x.property⟩⟩
  obtain ⟨m, -, hmin⟩ := (Finite.wellFounded_of_trans_of_irrefl Before).has_min Set.univ
    ⟨⟨⟨b, hb⟩, .refl⟩, trivial⟩
  obtain ⟨a, ha, ham⟩ := hpred m.val.val m.val.property
  exact hmin ⟨⟨a, ha⟩, .head ham m.property⟩ trivial (.single ham)

/-- A path to a node runs over other edges, too, where these have every edge on the way. -/
theorem path_of_edges_mem {edges edges' : List Edge} {n : NodeId}
    (hmem : ∀ e ∈ edges, ReflTransGen (Leads edges) e.toNode n →
      ReflTransGen (Leads edges') e.toNode n → e ∈ edges')
    {m : NodeId} (hm : ReflTransGen (Leads edges) m n) : ReflTransGen (Leads edges') m n := by
  induction hm using ReflTransGen.head_induction_on with
  | refl => exact .refl
  | head hac hcn ih =>
    obtain ⟨e, he, rfl, rfl⟩ := hac
    exact .head ⟨e, hmem e he hcn ih, rfl, rfl⟩ ih

namespace Graph

variable {κ ν : Type}

/-- The node of a given number is the one that has it. -/
theorem node?_eq_some_iff {g : Graph κ ν} {id : NodeId} {n : Node κ} :
    g.node? id = some n ↔ n ∈ g.nodes ∧ n.id = id := by
  constructor
  · intro h
    exact ⟨List.mem_of_find?_eq_some h, by simpa using List.find?_some h⟩
  · rintro ⟨hn, rfl⟩
    cases h : g.node? n.id with
    | none => simpa using List.find?_eq_none.mp h n hn
    | some m =>
      have hm : m.id = n.id := by simpa using List.find?_some h
      rw [List.inj_on_of_nodup_map g.distinct (List.mem_of_find?_eq_some h) hn hm]

/-- There is a node of every number that occurs, and of no other. -/
theorem exists_node?_iff {g : Graph κ ν} {id : NodeId} :
    (∃ n, g.node? id = some n) ↔ id ∈ g.nodeIds := by
  simp only [node?_eq_some_iff, nodeIds, List.mem_map]

variable [NodeFamily κ]

/-- Both ends of an edge are nodes, both of its ports are declared by their kinds, and what leaves
the one may enter the other. -/
def Resolves (g : Graph κ ν) (e : Edge) : Prop :=
  ∃ source ∈ g.nodes, ∃ target ∈ g.nodes, source.id = e.fromNode ∧ target.id = e.toNode ∧
    ∃ output input : Port,
      (NodeFamily.outputs source.kind)[e.fromPort.toNat]? = some output ∧
      (NodeFamily.inputs target.kind)[e.toPort.toNat]? = some input ∧
      (output.type = .any ∨ input.type = .any ∨ output.type = input.type)

/-- Both ends of an edge that resolves are nodes. -/
theorem Resolves.ends_mem {g : Graph κ ν} {e : Edge} (h : g.Resolves e) :
    e.fromNode ∈ g.nodeIds ∧ e.toNode ∈ g.nodeIds := by
  obtain ⟨source, hs, target, ht, hsid, htid, _⟩ := h
  exact ⟨List.mem_map.mpr ⟨source, hs, hsid⟩, List.mem_map.mpr ⟨target, ht, htid⟩⟩

/-- Checking an edge accepts exactly the edges that resolve. -/
theorem checkEdge_eq_ok_iff {g : Graph κ ν} {e : Edge} :
    g.checkEdge e = .ok () ↔ g.Resolves e := by
  constructor
  · intro h
    unfold checkEdge at h
    split at h
    · rename_i source target hs ht
      obtain ⟨hs, hsid⟩ := node?_eq_some_iff.mp hs
      obtain ⟨ht, htid⟩ := node?_eq_some_iff.mp ht
      split at h
      · contradiction
      · rename_i output ho
        split at h
        · contradiction
        · rename_i input hi
          split at h
          · rename_i hc
            refine ⟨source, hs, target, ht, hsid, htid, output, input, ho, hi, ?_⟩
            simpa [Port.canConnect, PortType.canConnect, or_assoc] using hc
          · contradiction
    · contradiction
  · rintro ⟨source, hs, target, ht, hsid, htid, output, input, ho, hi, hc⟩
    have hsource : g.node? e.fromNode = some source := node?_eq_some_iff.mpr ⟨hs, hsid⟩
    have htarget : g.node? e.toNode = some target := node?_eq_some_iff.mpr ⟨ht, htid⟩
    have ho : NodeFamily.port? source.kind .output e.fromPort = some output := ho
    have hi : NodeFamily.port? target.kind .input e.toPort = some input := hi
    have hc : output.canConnect input = true := by
      simpa [Port.canConnect, PortType.canConnect, or_assoc] using hc
    simp only [checkEdge, hsource, htarget, ho, hi, hc, ite_true]

end Graph

end Shipwright
