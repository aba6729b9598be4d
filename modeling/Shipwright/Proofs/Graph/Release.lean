import Shipwright.Proofs.Graph.Wiring
import Mathlib.Data.List.Nodup
import Mathlib.Data.List.Perm.Subperm

/-!
# Releasing nodes

What the scheduler keeps true while it relaxes one edge after the other and takes
one node after the other. The counters count the edges that are still to be
relaxed, so a node has been released exactly when its counter is zero. The nodes
taken respect the edges, and when nothing is released any more, every node that
is left waits for another one that is left.
-/

namespace Shipwright

open Relation

namespace Scheduling

/-- Lowering a counter changes what is found under its own node only. -/
theorem lookup_lower (id other : NodeId) (pending : List (NodeId × Nat)) :
    (lower id pending).lookup other =
      (pending.lookup other).map fun c => if other = id then c - 1 else c := by
  induction pending with
  | nil => rfl
  | cons p pending ih =>
    obtain ⟨key, c⟩ := p
    simp only [lower, List.map_cons] at ih ⊢
    by_cases hkey : other = key
    · subst hkey
      by_cases hid : other = id <;> simp [hid]
    · have hne : (other == key) = false := beq_eq_false_iff_ne.mpr hkey
      split <;> simp only [List.lookup_cons, hne, ih]

/-- Lowering a counter keeps the list of counted nodes. -/
theorem map_fst_lower (id : NodeId) (pending : List (NodeId × Nat)) :
    (lower id pending).map Prod.fst = pending.map Prod.fst := by
  simp only [lower, List.map_map, List.map_inj_left, Function.comp_apply]
  intro p _
  split <;> rfl

/-- Relaxing an edge lowers the counter of its target and no other. -/
theorem pendingOf_relax (s : Scheduling) (e : Edge) (id : NodeId) :
    (s.relax e).pendingOf id = if id = e.toNode then s.pendingOf id - 1 else s.pendingOf id := by
  simp only [pendingOf, relax, lookup_lower]
  cases s.pending.lookup id with
  | none => simp
  | some c => simp

@[simp] theorem order_relax (s : Scheduling) (e : Edge) : (s.relax e).order = s.order := rfl

/-- Relaxing an edge releases its target when this was the last edge into it. -/
theorem queue_relax (s : Scheduling) (e : Edge) :
    (s.relax e).queue =
      if s.pendingOf e.toNode = 1 then s.queue ++ [e.toNode] else s.queue := rfl

/-- Relaxing an edge releases its target and no other node. -/
theorem mem_relax (s : Scheduling) (e : Edge) (id : NodeId) :
    id ∈ (s.relax e).order ++ (s.relax e).queue ↔
      id ∈ s.order ++ s.queue ∨ id = e.toNode ∧ s.pendingOf e.toNode = 1 := by
  rw [order_relax, queue_relax]
  split
  · rename_i hone
    simp [hone, or_assoc]
  · rename_i hone
    simp [hone]

@[simp] theorem order_foldl_relax (s : Scheduling) (es : List Edge) :
    (es.foldl relax s).order = s.order := by
  induction es generalizing s with
  | nil => rfl
  | cons e es ih => exact ih (s.relax e)

/-- A node that is not counted has nothing pending. -/
theorem pendingOf_eq_zero {s : Scheduling} {id : NodeId} (h : id ∉ s.pending.map Prod.fst) :
    s.pendingOf id = 0 := by
  simp [pendingOf, OrderedMap.lookup_eq_none h]

/-- What holds while the edges `rest` are still to be relaxed. -/
structure Accurate (ids : List NodeId) (rest : List Edge) (s : Scheduling) : Prop where
  /-- Every node has its counter. -/
  keys : s.pending.map Prod.fst = ids
  /-- A counter counts the edges into its node that are still to be relaxed. -/
  counts : ∀ id ∈ ids, s.pendingOf id = rest.countP (·.toNode = id)
  /-- No node is released twice. -/
  nodup : (s.order ++ s.queue).Nodup
  /-- A node has been released exactly when its counter is zero. -/
  released : ∀ id, id ∈ s.order ++ s.queue ↔ id ∈ ids ∧ s.pendingOf id = 0

/-- Only the number of edges into each node matters, not the order in which they come. -/
theorem Accurate.perm {ids : List NodeId} {rest rest' : List Edge} {s : Scheduling}
    (h : Accurate ids rest s) (hp : rest.Perm rest') : Accurate ids rest' s :=
  ⟨h.keys, fun id hid => (h.counts id hid).trans (hp.countP_eq _), h.nodup, h.released⟩

/-- The next node to be taken has not been taken yet. -/
theorem Accurate.head_notMem_order {ids : List NodeId} {rest : List Edge} {s : Scheduling}
    {id : NodeId} {queue : List NodeId} (h : Accurate ids rest s) (hqueue : s.queue = id :: queue) :
    id ∉ s.order := by
  have hnodup := h.nodup
  rw [hqueue] at hnodup
  exact fun hmem => (List.nodup_append.mp hnodup).2.2 id hmem id (List.mem_cons_self ..) rfl

/-- No more nodes have been released than there are. -/
theorem Accurate.length_le {ids : List NodeId} {rest : List Edge} {s : Scheduling}
    (h : Accurate ids rest s) : s.order.length + s.queue.length ≤ ids.length := by
  have hsub : s.order ++ s.queue ⊆ ids := fun id hid => ((h.released id).mp hid).1
  have := (h.nodup.subperm hsub).length_le
  rwa [List.length_append] at this

/-- Taking a node moves it from the queue to the order; nothing else changes yet. -/
theorem Accurate.take {ids : List NodeId} {rest : List Edge} {s : Scheduling} {id : NodeId}
    {queue : List NodeId} (h : Accurate ids rest s) (hqueue : s.queue = id :: queue) :
    Accurate ids rest { s with queue, order := s.order ++ [id] } := by
  have hlist : (s.order ++ [id]) ++ queue = s.order ++ s.queue := by simp [hqueue]
  exact ⟨h.keys, h.counts, hlist ▸ h.nodup, fun i => hlist ▸ h.released i⟩

/-- A node with something pending is one of those that are counted. -/
theorem Accurate.mem_of_pendingOf_ne_zero {ids : List NodeId} {rest : List Edge} {s : Scheduling}
    {id : NodeId} (h : Accurate ids rest s) (hpending : s.pendingOf id ≠ 0) : id ∈ ids := by
  by_contra hno
  rw [← h.keys] at hno
  exact hpending (pendingOf_eq_zero hno)

/-- Relaxing an edge takes it from those that are still to be relaxed. -/
theorem Accurate.relax {ids : List NodeId} {rest : List Edge} {s : Scheduling} {e : Edge}
    (h : Accurate ids (e :: rest) s) : Accurate ids rest (s.relax e) := by
  have hcount : e.toNode ∈ ids →
      s.pendingOf e.toNode = rest.countP (·.toNode = e.toNode) + 1 := by
    intro hmem
    rw [h.counts e.toNode hmem, List.countP_cons]
    simp
  refine ⟨?_, ?_, ?_, ?_⟩
  · exact (map_fst_lower e.toNode s.pending).trans h.keys
  · intro id hid
    rw [pendingOf_relax]
    by_cases hto : id = e.toNode
    · subst hto
      simp [hcount hid]
    · have hne : ¬ e.toNode = id := fun heq => hto heq.symm
      simp [hto, hne, h.counts id hid]
  · rw [order_relax, queue_relax]
    split
    · rename_i hone
      have hnew : e.toNode ∉ s.order ++ s.queue := by
        intro hmem
        have hzero := ((h.released e.toNode).mp hmem).2
        omega
      rw [← List.append_assoc]
      exact List.nodup_append.mpr ⟨h.nodup, by simp, fun a ha b hb hab =>
        hnew (List.mem_singleton.mp hb ▸ hab ▸ ha)⟩
    · exact h.nodup
  · intro id
    rw [mem_relax, h.released, pendingOf_relax]
    by_cases hto : id = e.toNode
    · subst hto
      have hmem : s.pendingOf e.toNode = 1 → e.toNode ∈ ids := fun hone =>
        h.mem_of_pendingOf_ne_zero (by omega)
      rw [if_pos rfl]
      constructor
      · rintro (⟨hid, hzero⟩ | ⟨_, hone⟩)
        · exact ⟨hid, by omega⟩
        · exact ⟨hmem hone, by omega⟩
      · rintro ⟨hid, hzero⟩
        have hpos := hcount hid
        exact Or.inr ⟨rfl, by omega⟩
    · simp [hto]

/-- Relaxing edges one after the other. -/
theorem Accurate.foldl_relax {ids : List NodeId} {es rest : List Edge} {s : Scheduling}
    (h : Accurate ids (es ++ rest) s) : Accurate ids rest (es.foldl Scheduling.relax s) := by
  induction es generalizing s with
  | nil => exact h
  | cons e es ih => exact ih h.relax

/-- The edges whose source has not been taken. -/
def unrelaxed (edges : List Edge) (s : Scheduling) : List Edge :=
  edges.filter (·.fromNode ∉ s.order)

/-- What holds before and after every step. -/
structure Sound (ids : List NodeId) (edges : List Edge) (s : Scheduling) : Prop where
  /-- The edges that leave a taken node have been relaxed, and no others. -/
  accurate : Accurate ids (unrelaxed edges s) s
  /-- A node is taken after the sources of all edges into it. -/
  precedes : ∀ e ∈ edges, e.toNode ∈ s.order →
    s.order.idxOf e.fromNode < s.order.idxOf e.toNode

/-- The first counters count all edges. -/
theorem pendingOf_initial {ids : List NodeId} (edges : List Edge) {id : NodeId} (h : id ∈ ids) :
    (initial ids edges).pendingOf id = edges.countP (·.toNode = id) := by
  have hlookup : ∀ f : NodeId → Nat, (ids.map fun i => (i, f i)).lookup id = some (f id) := by
    intro f
    induction ids with
    | nil => contradiction
    | cons i ids ih =>
      by_cases hi : id = i
      · simp [hi]
      · have hrest : id ∈ ids := (List.mem_cons.mp h).resolve_left hi
        simp [List.lookup_cons, beq_eq_false_iff_ne.mpr hi, ih hrest]
  simp [pendingOf, initial, hlookup]

/-- The first state is sound: nothing is taken, and the nodes without edges into them wait. -/
theorem Sound.initial {ids : List NodeId} (hids : ids.Nodup) (edges : List Edge) :
    Sound ids edges (Scheduling.initial ids edges) := by
  have hall : unrelaxed edges (Scheduling.initial ids edges) = edges := by
    simp [unrelaxed, Scheduling.initial]
  have hkeys : (Scheduling.initial ids edges).pending.map Prod.fst = ids := by
    simp [Scheduling.initial, Function.comp_def]
  refine ⟨⟨hkeys, ?_, ?_, ?_⟩, ?_⟩
  · intro id hid
    rw [hall]
    exact pendingOf_initial edges hid
  · have hsub : (Scheduling.initial ids edges).queue.Sublist
        ((Scheduling.initial ids edges).pending.map Prod.fst) := List.filter_sublist.map _
    rw [hkeys] at hsub
    exact hsub.nodup hids
  · intro id
    constructor
    · intro hid
      have hid : id ∈ ids ∧ edges.countP (·.toNode = id) = 0 := by
        simpa [Scheduling.initial, -List.countP_eq_zero] using hid
      exact ⟨hid.1, (pendingOf_initial edges hid.1).trans hid.2⟩
    · rintro ⟨hid, hzero⟩
      rw [pendingOf_initial edges hid] at hzero
      simpa [Scheduling.initial, -List.countP_eq_zero] using And.intro hid hzero
  · intro e _ hto
    simp [Scheduling.initial] at hto

/-- A released node has only taken nodes before it. -/
theorem Accurate.sources_taken {ids : List NodeId} {edges : List Edge} {s : Scheduling}
    (h : Accurate ids (unrelaxed edges s) s) {e : Edge} (he : e ∈ edges)
    (hto : e.toNode ∈ s.order ++ s.queue) : e.fromNode ∈ s.order := by
  obtain ⟨hmem, hzero⟩ := (h.released e.toNode).mp hto
  rw [h.counts e.toNode hmem, List.countP_eq_zero] at hzero
  by_contra hfrom
  have hleft : e ∈ unrelaxed edges s := List.mem_filter.mpr ⟨he, by simpa using hfrom⟩
  simpa using hzero e hleft

/-- Taking a node splits the edges that are to be relaxed into those that leave it and the rest;
the edges may carry more than themselves. -/
theorem unrelaxed_perm {τ : Type} (source : τ → NodeId) (xs : List τ) {order : List NodeId}
    {id : NodeId} (hid : id ∉ order) :
    (xs.filter (source · ∉ order)).Perm
      (xs.filter (source · = id) ++ xs.filter (source · ∉ order ++ [id])) := by
  have hsplit := List.filter_append_perm (fun x => decide (source x = id))
    (xs.filter (source · ∉ order))
  have hleaving : (xs.filter (source · ∉ order)).filter (source · = id) =
      xs.filter (source · = id) := by
    rw [List.filter_filter]
    apply List.filter_congr
    intro x _
    by_cases heq : source x = id
    · simp [heq, hid]
    · simp [heq]
  have hstaying : (xs.filter (source · ∉ order)).filter (fun x => !decide (source x = id)) =
      xs.filter (source · ∉ order ++ [id]) := by
    rw [List.filter_filter]
    apply List.filter_congr
    intro x _
    simp [not_or, and_comm]
  rw [hleaving, hstaying] at hsplit
  exact hsplit.symm

/-- Without a released node a step does nothing. -/
theorem step_nil {s : Scheduling} (edges : List Edge) (h : s.queue = []) : s.step edges = s := by
  simp [step, h]

/-- With a released node a step takes it and relaxes the edges that leave it. -/
theorem step_cons {s : Scheduling} {id : NodeId} {queue : List NodeId} (edges : List Edge)
    (h : s.queue = id :: queue) :
    s.step edges =
      (edges.filter (·.fromNode = id)).foldl relax { s with queue, order := s.order ++ [id] } := by
  simp [step, h]

/-- A step takes the next released node, if there is one. -/
theorem order_step (s : Scheduling) (edges : List Edge) :
    (s.step edges).order = s.order ++ s.queue.take 1 := by
  cases h : s.queue with
  | nil => simp [step_nil edges h]
  | cons id queue => simp [step_cons edges h]

/-- A step keeps the state sound. -/
theorem Sound.step {ids : List NodeId} {edges : List Edge} {s : Scheduling}
    (h : Sound ids edges s) : Sound ids edges (s.step edges) := by
  cases hqueue : s.queue with
  | nil => rwa [step_nil edges hqueue]
  | cons id queue =>
    have hid := h.accurate.head_notMem_order hqueue
    have horder : (s.step edges).order = s.order ++ [id] := by simp [order_step, hqueue]
    refine ⟨?_, ?_⟩
    · have htaken := h.accurate.take hqueue
      have hrelaxed := (htaken.perm (unrelaxed_perm Edge.fromNode edges hid)).foldl_relax
      rw [unrelaxed, horder, step_cons edges hqueue]
      exact hrelaxed
    · intro e he hto
      have hreleased : e.toNode ∈ s.order ++ s.queue := by
        rw [horder] at hto
        rcases List.mem_append.mp hto with hto | hto
        · exact List.mem_append_left _ hto
        · simp [hqueue, List.mem_singleton.mp hto]
      have hfrom : e.fromNode ∈ s.order := h.accurate.sources_taken he hreleased
      rw [horder, List.idxOf_append, List.idxOf_append, if_pos hfrom]
      split
      · rename_i hmem
        exact h.precedes e he hmem
      · have := List.idxOf_lt_length_of_mem hfrom
        omega

/-- Any number of steps keeps the state sound. -/
theorem Sound.steps {ids : List NodeId} {edges : List Edge} {s : Scheduling}
    (h : Sound ids edges s) (n : Nat) : Sound ids edges (steps edges n s) := by
  induction n generalizing s with
  | zero => exact h
  | succ n ih => exact ih h.step

/-- Every step takes a node until nothing is released any more. -/
theorem queue_steps_eq_nil_or (edges : List Edge) (n : Nat) (s : Scheduling) :
    (steps edges n s).queue = [] ∨ (steps edges n s).order.length = s.order.length + n := by
  induction n generalizing s with
  | zero => exact Or.inr rfl
  | succ n ih =>
    cases hqueue : s.queue with
    | nil =>
      have hstay : ∀ m, (steps edges m s).queue = [] := by
        intro m
        induction m with
        | zero => exact hqueue
        | succ m ihm =>
          change (steps edges m (s.step edges)).queue = []
          rwa [step_nil edges hqueue]
      exact Or.inl (hstay (n + 1))
    | cons id queue =>
      have hlength : (s.step edges).order.length = s.order.length + 1 := by
        simp [order_step, hqueue]
      rcases ih (s.step edges) with hnil | hlen
      · exact Or.inl hnil
      · refine Or.inr ?_
        change (steps edges n (s.step edges)).order.length = _
        omega

section Final

variable {ids : List NodeId} (hids : ids.Nodup) (edges : List Edge)
include hids

/-- The final state is sound. -/
theorem sound_final : Sound ids edges (final ids edges) := (Sound.initial hids edges).steps _

/-- In the final state nothing is released any more. -/
theorem queue_final : (final ids edges).queue = [] := by
  have hlength := (sound_final hids edges).accurate.length_le
  rcases queue_steps_eq_nil_or edges ids.length (initial ids edges) with hnil | hlen
  · exact hnil
  · have hall : (final ids edges).order.length = ids.length :=
      hlen.trans (Nat.zero_add _)
    exact List.eq_nil_of_length_eq_zero (by omega)

/-- A node is taken in the end exactly when its counter is zero. -/
theorem mem_order_final (id : NodeId) :
    id ∈ (final ids edges).order ↔ id ∈ ids ∧ (final ids edges).pendingOf id = 0 := by
  have h := (sound_final hids edges).accurate.released id
  rwa [queue_final hids edges, List.append_nil] at h

/-- Where every node is taken, the order respects the edges. -/
theorem topological_final (hends : ∀ e ∈ edges, e.toNode ∈ ids)
    (hall : (final ids edges).order.length = ids.length) :
    Topological ids edges (final ids edges).order := by
  have hsound := sound_final hids edges
  have hnodup : (final ids edges).order.Nodup := (List.nodup_append.mp hsound.accurate.nodup).1
  have hsub : (final ids edges).order ⊆ ids := fun id hid =>
    ((mem_order_final hids edges id).mp hid).1
  have hperm := (hnodup.subperm hsub).perm_of_length_le (Nat.le_of_eq hall.symm)
  exact ⟨hnodup, fun id => hperm.mem_iff,
    fun e he => hsound.precedes e he (hperm.mem_iff.mpr (hends e he))⟩

/-- A node that is left waits for a node that is left. -/
theorem exists_left_source (hends : ∀ e ∈ edges, e.fromNode ∈ ids) {id : NodeId} (hid : id ∈ ids)
    (hleft : id ∉ (final ids edges).order) :
    ∃ a ∈ ids, a ∉ (final ids edges).order ∧ Leads edges a id := by
  have hcount := (sound_final hids edges).accurate.counts id hid
  have hpos : (final ids edges).pendingOf id ≠ 0 := fun hzero =>
    hleft ((mem_order_final hids edges id).mpr ⟨hid, hzero⟩)
  rw [hcount, ← Nat.pos_iff_ne_zero, List.countP_pos_iff] at hpos
  obtain ⟨e, he, hto⟩ := hpos
  obtain ⟨he, hfrom⟩ := List.mem_filter.mp he
  exact ⟨e.fromNode, hends e he, by simpa using hfrom, e, he, rfl, by simpa using hto⟩

/-- A node that is left lies on a circle or behind one. -/
theorem exists_cycle_of_left (hends : ∀ e ∈ edges, e.fromNode ∈ ids) {id : NodeId}
    (hid : id ∈ ids) (hleft : id ∉ (final ids edges).order) :
    ∃ n, TransGen (Leads edges) n n ∧ ReflTransGen (Leads edges) n id := by
  let rest := ids.filter (· ∉ (final ids edges).order)
  have hpred : ∀ b ∈ rest, ∃ a ∈ rest, Leads edges a b := by
    intro b hb
    obtain ⟨hb, hbleft⟩ := List.mem_filter.mp hb
    obtain ⟨a, ha, haleft, hab⟩ := exists_left_source hids edges hends hb (by simpa using hbleft)
    exact ⟨a, List.mem_filter.mpr ⟨ha, by simpa using haleft⟩, hab⟩
  have hrest : id ∈ rest := List.mem_filter.mpr ⟨hid, by simpa using hleft⟩
  exact exists_cycle_of_predecessors hpred hrest

/-- Without a circle every node is taken. -/
theorem length_order_final (hends : ∀ e ∈ edges, e.fromNode ∈ ids) (hacyclic : Acyclic edges) :
    (final ids edges).order.length = ids.length := by
  have hsub : ids ⊆ (final ids edges).order := by
    intro id hid
    by_contra hleft
    obtain ⟨n, hn, _⟩ := exists_cycle_of_left hids edges hends hid hleft
    exact hacyclic n hn
  have hge := (hids.subperm hsub).length_le
  have hle := (sound_final hids edges).accurate.length_le
  omega

end Final

end Scheduling

end Shipwright
