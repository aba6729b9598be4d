import Shipwright.Proofs.Graph.Calculator
import Shipwright.Proofs.Graph.Compile
import Mathlib.Data.Prod.Lex

/-!
# The order of the schedule

The scheduler relaxes edges source by source, and those of one source in edge order. So
every edge has its moment: the place of its source in the order, and then its own place
among the edges. A node with edges into it is released at the last of their moments.
First come, first served, the nodes without such edges are taken as they stand, and
all others by the moment of their release. Nothing is left open by this: whichever nodes
could have been taken as well, no other order that respects the edges is like that.
-/

namespace Shipwright

namespace Scheduling

/-- The moment at which an edge, given with its place among the edges, is relaxed: the place of its
source in the order of the nodes, and then its own. -/
def moment (order : List NodeId) (x : Edge × Nat) : Nat ×ₗ Nat :=
  toLex (order.idxOf x.1.fromNode, x.2)

/-- The last moment at which an edge into a node is relaxed, if there is any such edge. -/
def releaseKey? (edges : List Edge) (order : List NodeId) (id : NodeId) : Option (Nat ×ₗ Nat) :=
  ((edges.zipIdx.filter (·.1.toNode = id)).map (moment order)).max?

/-- Edges lead into both nodes, and the last one into the first node is relaxed before the last one
into the second. -/
def ReleasedBefore (edges : List Edge) (order : List NodeId) (a b : NodeId) : Prop :=
  ∃ k l, releaseKey? edges order a = some k ∧ releaseKey? edges order b = some l ∧ k < l

/-- What holds while the edges `rest` are still to be relaxed, each with its place among all edges.
The moments are those of the order in which the nodes will have been taken in the end. -/
structure Timely (ids : List NodeId) (edges : List Edge) (order : List NodeId)
    (rest : List (Edge × Nat)) (s : Scheduling) : Prop where
  /-- The counters count the rest. -/
  accurate : Accurate ids (rest.map Prod.fst) s
  /-- The rest is among the edges. -/
  known : ∀ x ∈ rest, x ∈ edges.zipIdx
  /-- What has been relaxed was relaxed earlier than the rest will be. -/
  past : ∀ x ∈ edges.zipIdx, x ∉ rest → ∀ y ∈ rest, moment order x < moment order y
  /-- After the nodes that were released at first come others in the order of their release, and
  that was before the rest is relaxed. -/
  released : ∃ later, s.order ++ s.queue = (initial ids edges).queue ++ later ∧
    later.Pairwise (ReleasedBefore edges order) ∧
    ∀ id ∈ later, ∃ key, releaseKey? edges order id = some key ∧
      ∀ y ∈ rest, key < moment order y

/-- The edges that are still to be relaxed, each with its place among all edges. -/
def remaining (edges : List Edge) (s : Scheduling) : List (Edge × Nat) :=
  edges.zipIdx.filter (·.1.fromNode ∉ s.order)

/-- The edges that leave a node, each with its place among all edges. -/
def leaving (edges : List Edge) (id : NodeId) : List (Edge × Nat) :=
  edges.zipIdx.filter (·.1.fromNode = id)

/-- Without their places these are the edges that a step relaxes. -/
theorem map_fst_leaving (edges : List Edge) (id : NodeId) :
    (leaving edges id).map Prod.fst = edges.filter (·.fromNode = id) := by
  rw [leaving, ← Function.comp_def (fun e : Edge => decide (e.fromNode = id)), ← List.filter_map,
    List.zipIdx_map_fst]

variable {ids order : List NodeId} {edges : List Edge} {rest rest' : List (Edge × Nat)}
  {s : Scheduling}

/-- It does not matter in which order the rest is listed. -/
theorem Timely.perm (h : Timely ids edges order rest s) (hp : rest.Perm rest') :
    Timely ids edges order rest' s := by
  obtain ⟨later, hlist, hsorted, hkeys⟩ := h.released
  refine ⟨h.accurate.perm (hp.map _), fun x hx => h.known x (hp.mem_iff.mpr hx), ?_,
    later, hlist, hsorted, ?_⟩
  · intro x hx hdone y hy
    exact h.past x hx (fun hrest => hdone (hp.mem_iff.mp hrest)) y (hp.mem_iff.mpr hy)
  · intro id hid
    obtain ⟨key, hkey, hbefore⟩ := hkeys id hid
    exact ⟨key, hkey, fun y hy => hbefore y (hp.mem_iff.mpr hy)⟩

/-- Taking a node releases none. -/
theorem Timely.take {id : NodeId} {queue : List NodeId} (h : Timely ids edges order rest s)
    (hqueue : s.queue = id :: queue) :
    Timely ids edges order rest { s with queue, order := s.order ++ [id] } := by
  have hlist : (s.order ++ [id]) ++ queue = s.order ++ s.queue := by simp [hqueue]
  exact ⟨h.accurate.take hqueue, h.known, h.past, hlist ▸ h.released⟩

/-- An edge that releases its target has the last moment of all edges into it. -/
theorem Timely.releaseKey?_eq {x : Edge × Nat} (h : Timely ids edges order (x :: rest) s)
    (hone : s.pendingOf x.1.toNode = 1) :
    releaseKey? edges order x.1.toNode = some (moment order x) := by
  have hmem : x.1.toNode ∈ ids := h.accurate.mem_of_pendingOf_ne_zero (by omega)
  have hcount := h.accurate.counts _ hmem
  have hnone : (rest.map Prod.fst).countP (·.toNode = x.1.toNode) = 0 := by
    rw [List.map_cons, List.countP_cons, if_pos (by simp)] at hcount
    omega
  have helsewhere : ∀ y ∈ rest, y.1.toNode ≠ x.1.toNode := fun y hy => by
    simpa using List.countP_eq_zero.mp hnone y.1 (List.mem_map_of_mem hy)
  refine List.max?_eq_some_iff.mpr ⟨?_, ?_⟩
  · exact List.mem_map_of_mem (List.mem_filter.mpr ⟨h.known x (.head _), by simp⟩)
  · rw [List.forall_mem_map]
    intro y hy
    obtain ⟨hy, hto⟩ := List.mem_filter.mp hy
    by_cases hyx : y = x
    · exact hyx ▸ le_rfl
    · have hdone : y ∉ x :: rest := fun hrest =>
        helsewhere y (List.mem_of_ne_of_mem hyx hrest) (of_decide_eq_true hto)
      exact (h.past y hy hdone x (.head _)).le

/-- Relaxing the earliest edge of the rest takes it away; a node that it releases comes last. -/
theorem Timely.relax {x : Edge × Nat} (h : Timely ids edges order (x :: rest) s)
    (hnext : ∀ y ∈ rest, moment order x < moment order y) :
    Timely ids edges order rest (s.relax x.1) := by
  obtain ⟨later, hlist, hsorted, hkeys⟩ := h.released
  refine ⟨h.accurate.relax, fun y hy => h.known y (.tail _ hy), ?_, ?_⟩
  · intro y hy hdone z hz
    by_cases hyx : y = x
    · exact hyx ▸ hnext z hz
    · exact h.past y hy (by simp [hyx, hdone]) z (.tail _ hz)
  · rw [order_relax, queue_relax]
    split
    · rename_i hone
      have hkey := h.releaseKey?_eq hone
      refine ⟨later ++ [x.1.toNode], by rw [← List.append_assoc, hlist, List.append_assoc], ?_, ?_⟩
      · refine List.pairwise_append.mpr ⟨hsorted, List.pairwise_singleton _ _, ?_⟩
        intro id hid target htarget
        obtain rfl := List.mem_singleton.mp htarget
        obtain ⟨key, hid, hbefore⟩ := hkeys id hid
        exact ⟨key, _, hid, hkey, hbefore x (.head _)⟩
      · intro id hid
        rcases List.mem_append.mp hid with hid | hid
        · obtain ⟨key, hid, hbefore⟩ := hkeys id hid
          exact ⟨key, hid, fun y hy => hbefore y (.tail _ hy)⟩
        · obtain rfl := List.mem_singleton.mp hid
          exact ⟨_, hkey, hnext⟩
    · refine ⟨later, hlist, hsorted, fun id hid => ?_⟩
      obtain ⟨key, hid, hbefore⟩ := hkeys id hid
      exact ⟨key, hid, fun y hy => hbefore y (.tail _ hy)⟩

/-- Relaxing the earliest edges of the rest one after the other. -/
theorem Timely.foldl_relax {xs : List (Edge × Nat)} (h : Timely ids edges order (xs ++ rest) s)
    (hsorted : xs.Pairwise fun x y => moment order x < moment order y)
    (hnext : ∀ x ∈ xs, ∀ y ∈ rest, moment order x < moment order y) :
    Timely ids edges order rest ((xs.map Prod.fst).foldl Scheduling.relax s) := by
  induction xs generalizing s with
  | nil => exact h
  | cons x xs ih =>
    obtain ⟨hx, hsorted⟩ := List.pairwise_cons.mp hsorted
    refine ih (h.relax fun y hy => ?_) hsorted fun z hz => hnext z (.tail _ hz)
    exact (List.mem_append.mp hy).elim (hx y) (hnext x (.head _) y)

/-- Of the edges that leave one node those that come first are relaxed first. -/
theorem pairwise_moment_leaving (edges : List Edge) (order : List NodeId) (id : NodeId) :
    (leaving edges id).Pairwise fun x y => moment order x < moment order y := by
  have hplaces : edges.zipIdx.Pairwise fun x y => x.2 < y.2 := by
    rw [← List.pairwise_map, List.zipIdx_map_snd]
    exact List.pairwise_lt_range'
  refine (hplaces.sublist List.filter_sublist).imp_of_mem fun hx hy hlt => ?_
  have hx := of_decide_eq_true (List.mem_filter.mp hx).2
  have hy := of_decide_eq_true (List.mem_filter.mp hy).2
  exact Prod.Lex.toLex_lt_toLex.mpr (.inr ⟨by rw [hx, hy], hlt⟩)

/-- A node among the first ones of an order comes before a node that is not. -/
theorem idxOf_lt_of_begins {done : List NodeId} (h : done <+: order) {a b : NodeId} (ha : a ∈ done)
    (hb : b ∉ done) : order.idxOf a < order.idxOf b := by
  obtain ⟨after, rfl⟩ := h
  rw [List.idxOf_append, if_pos ha, List.idxOf_append, if_neg hb]
  have hplace := List.idxOf_lt_length_of_mem ha
  omega

/-- A step relaxes the edges of the node it takes, and these are the earliest of the rest. -/
theorem Timely.step (h : Timely ids edges order (remaining edges s) s)
    (hbegins : (s.step edges).order <+: order) :
    Timely ids edges order (remaining edges (s.step edges)) (s.step edges) := by
  cases hqueue : s.queue with
  | nil => rwa [step_nil edges hqueue]
  | cons id queue =>
    have hid := h.accurate.head_notMem_order hqueue
    have horder : (s.step edges).order = s.order ++ [id] := by simp [order_step, hqueue]
    rw [horder] at hbegins
    have hperm := unrelaxed_perm (fun x : Edge × Nat => x.1.fromNode) edges.zipIdx hid
    rw [remaining, horder, step_cons edges hqueue, ← map_fst_leaving]
    refine ((h.take hqueue).perm hperm).foldl_relax (pairwise_moment_leaving edges order id) ?_
    intro x hx y hy
    have hx : x.1.fromNode = id := of_decide_eq_true (List.mem_filter.mp hx).2
    have hy : y.1.fromNode ∉ s.order ++ [id] := of_decide_eq_true (List.mem_filter.mp hy).2
    have hbefore := idxOf_lt_of_begins hbegins (List.mem_append_right s.order (.head [])) hy
    exact Prod.Lex.toLex_lt_toLex.mpr (.inl (hx ▸ hbefore))

/-- The nodes taken so far remain the first ones. -/
theorem order_prefix_steps (edges : List Edge) (n : Nat) (s : Scheduling) :
    s.order <+: (steps edges n s).order := by
  induction n generalizing s with
  | zero => exact List.prefix_rfl
  | succ n ih =>
    have hstep : s.order <+: (s.step edges).order := ⟨_, (order_step s edges).symm⟩
    exact hstep.trans (ih (s.step edges))

/-- Any number of steps on the way to an order relaxes edges in the order of their moments. -/
theorem Timely.steps (h : Timely ids edges order (remaining edges s) s) {n : Nat}
    (hbegins : (steps edges n s).order <+: order) :
    Timely ids edges order (remaining edges (steps edges n s)) (steps edges n s) := by
  induction n generalizing s with
  | zero => exact h
  | succ n ih => exact ih (h.step ((order_prefix_steps edges n _).trans hbegins)) hbegins

/-- At first all edges are to be relaxed, and no node has been released later. -/
theorem Timely.initial (hids : ids.Nodup) (edges : List Edge) (order : List NodeId) :
    Timely ids edges order (remaining edges (initial ids edges)) (initial ids edges) := by
  have hall : remaining edges (Scheduling.initial ids edges) = edges.zipIdx := by
    simp [remaining, Scheduling.initial]
  have hedges : unrelaxed edges (Scheduling.initial ids edges) = edges := by
    simp [unrelaxed, Scheduling.initial]
  have haccurate : Accurate ids (edges.zipIdx.map Prod.fst) (Scheduling.initial ids edges) := by
    have haccurate := (Sound.initial hids edges).accurate
    rw [hedges] at haccurate
    rwa [List.zipIdx_map_fst]
  rw [hall]
  refine ⟨haccurate, fun _ hx => hx, fun x hx hdone => absurd hx hdone, [], ?_, .nil, ?_⟩
  · simp [Scheduling.initial]
  · exact fun id hid => absurd hid List.not_mem_nil

/-- In the end the nodes without edges into them have been taken first, and then the others in the
order of their release. -/
theorem exists_order_final_eq (hids : ids.Nodup) (edges : List Edge) :
    ∃ later, (final ids edges).order = (initial ids edges).queue ++ later ∧
      later.Pairwise (ReleasedBefore edges (final ids edges).order) := by
  have htimely := (Timely.initial hids edges (final ids edges).order).steps List.prefix_rfl
  obtain ⟨later, hlist, hsorted, -⟩ := htimely.released
  have hqueue : (steps edges ids.length (initial ids edges)).queue = [] := queue_final hids edges
  rw [hqueue, List.append_nil] at hlist
  exact ⟨later, hlist, hsorted⟩

/-- Orders that begin alike have the same key for a node whose edges all come from there. -/
theorem releaseKey?_congr {done rest₁ rest₂ : List NodeId} {id : NodeId}
    (h : ∀ e ∈ edges, e.toNode = id → e.fromNode ∈ done) :
    releaseKey? edges (done ++ rest₁) id = releaseKey? edges (done ++ rest₂) id := by
  unfold releaseKey?
  congr 1
  refine List.map_congr_left fun x hx => ?_
  obtain ⟨hx, hto⟩ := List.mem_filter.mp hx
  have hfrom := h x.1 (List.fst_mem_of_mem_zipIdx hx) (of_decide_eq_true hto)
  simp only [moment, List.idxOf_append, if_pos hfrom]

/-- There is one order at most that respects the edges and, after some first nodes, has all others
in the order of their release. Where two orders went on differently, the sources of both nodes are
among the first ones, so that each order has the keys of both. -/
theorem eq_of_sorted_by_release {done rest₁ rest₂ : List NodeId}
    (h₁ : Topological ids edges (done ++ rest₁)) (h₂ : Topological ids edges (done ++ rest₂))
    (hsorted₁ : rest₁.Pairwise (ReleasedBefore edges (done ++ rest₁)))
    (hsorted₂ : rest₂.Pairwise (ReleasedBefore edges (done ++ rest₂))) : rest₁ = rest₂ := by
  have hperm : rest₁.Perm rest₂ := (List.perm_append_left_iff done).mp <|
    (List.perm_ext_iff_of_nodup h₁.nodup h₂.nodup).mpr fun id =>
      (h₁.mem_iff id).trans (h₂.mem_iff id).symm
  induction rest₁ generalizing done rest₂ with
  | nil => exact hperm.nil_eq
  | cons a rest₁ ih =>
    cases rest₂ with
    | nil => exact absurd hperm.eq_nil (List.cons_ne_nil a rest₁)
    | cons b rest₂ =>
      by_cases hab : a = b
      · subst hab
        rw [List.append_cons] at h₁ h₂ hsorted₁ hsorted₂
        rw [ih h₁ h₂ hsorted₁.of_cons hsorted₂.of_cons (hperm.cons_inv)]
      · have ha : a ∈ rest₂ := List.mem_of_ne_of_mem hab (hperm.mem_iff.mp (.head _))
        have hb : b ∈ rest₁ := List.mem_of_ne_of_mem (Ne.symm hab) (hperm.mem_iff.mpr (.head _))
        have hkey_a : releaseKey? edges (done ++ a :: rest₁) a =
            releaseKey? edges (done ++ b :: rest₂) a :=
          releaseKey?_congr fun e he hto => h₁.source_mem he (by simp [hto])
        have hkey_b : releaseKey? edges (done ++ a :: rest₁) b =
            releaseKey? edges (done ++ b :: rest₂) b :=
          releaseKey?_congr fun e he hto => h₂.source_mem he (by simp [hto])
        obtain ⟨k, l, hk, hl, hlt⟩ := List.rel_of_pairwise_cons hsorted₁ hb
        obtain ⟨l', k', hl', hk', hgt⟩ := List.rel_of_pairwise_cons hsorted₂ ha
        obtain rfl : k = k' := Option.some.inj ((hk.symm.trans hkey_a).trans hk')
        obtain rfl : l = l' := Option.some.inj ((hl.symm.trans hkey_b).trans hl')
        exact absurd hlt hgt.asymm

/-- The nodes that are released at first are those without edges into them, in their own order. -/
theorem queue_initial (ids : List NodeId) (edges : List Edge) :
    (initial ids edges).queue = ids.filter fun id => (edges.filter (·.toNode = id)).isEmpty := by
  simp only [initial, List.filter_map, List.map_map, Function.comp_def, List.map_id']
  exact List.filter_congr fun id _ => Bool.eq_iff_iff.mpr (by simp)

end Scheduling

namespace Graph

variable {κ ν : Type} [NodeFamily κ]

/-- A schedule has first the nodes without edges into them, and then the others in the order of
their release. -/
theorem exists_order_eq_of_schedule {g : Graph κ ν} {order : List NodeId}
    (h : g.schedule = .ok order) :
    ∃ later, order = (g.nodeIds.filter fun id => (g.edgesInto id).isEmpty) ++ later ∧
      later.Pairwise (Scheduling.ReleasedBefore g.edges order) := by
  obtain ⟨-, -, rfl⟩ := schedule_eq_ok_iff.mp h
  have hfinal := Scheduling.exists_order_final_eq g.nodup_nodeIds g.edges
  rwa [Scheduling.queue_initial] at hfinal

/-- No other order that respects the edges is like that. -/
theorem eq_of_schedule_of_sorted_by_release {g : Graph κ ν} {order : List NodeId}
    (h : g.schedule = .ok order) {later : List NodeId}
    (htopological : Topological g.nodeIds g.edges
      ((g.nodeIds.filter fun id => (g.edgesInto id).isEmpty) ++ later))
    (hsorted : later.Pairwise (Scheduling.ReleasedBefore g.edges
      ((g.nodeIds.filter fun id => (g.edgesInto id).isEmpty) ++ later))) :
    order = (g.nodeIds.filter fun id => (g.edgesInto id).isEmpty) ++ later := by
  have hschedule := topological_of_schedule h
  obtain ⟨later', rfl, hsorted'⟩ := exists_order_eq_of_schedule h
  rw [Scheduling.eq_of_sorted_by_release hschedule htopological hsorted' hsorted]

/-- Where a graph compiles, its order has first the nodes without edges into them, as they were
added. The others follow, and of any two of them the one comes first into which the last edge was
relaxed first: the edge whose source is earlier in the order, and of the edges of one source the
one that was added first. -/
theorem order_compile_sorted_by_release {g : Graph κ ν} (h : g.compile.2 = .ok ()) :
    ∃ later, g.compile.1.order =
        (g.nodeIds.filter fun id => (g.edgesInto id).isEmpty) ++ later ∧
      later.Perm (g.nodeIds.filter fun id => !(g.edgesInto id).isEmpty) ∧
      later.Pairwise (Scheduling.ReleasedBefore g.edges g.compile.1.order) := by
  obtain ⟨order, hschedule⟩ := compile_eq_ok_iff.mp h
  obtain ⟨later, hlist, hsorted⟩ := exists_order_eq_of_schedule hschedule
  have htopological := topological_of_schedule hschedule
  have hnodes : order.Perm g.nodeIds :=
    (List.perm_ext_iff_of_nodup htopological.nodup g.nodup_nodeIds).mpr htopological.mem_iff
  have hsplit := List.filter_append_perm (fun id => (g.edgesInto id).isEmpty) g.nodeIds
  rw [compile_of_schedule hschedule]
  exact ⟨later, hlist, (List.perm_append_left_iff _).mp (hlist ▸ hnodes.trans hsplit.symm), hsorted⟩

/-- The crossed edges release the second sum before the first one. -/
theorem order_crossed_sorted_by_release :
    (built "Crossed" Calc.crossed).compile.2 = .ok () ∧
    (built "Crossed" Calc.crossed).compile.1.order = [⟨1⟩, ⟨2⟩, ⟨4⟩, ⟨3⟩] ∧
    ∃ later, (built "Crossed" Calc.crossed).compile.1.order =
        ((built "Crossed" Calc.crossed).nodeIds.filter fun id =>
          ((built "Crossed" Calc.crossed).edgesInto id).isEmpty) ++ later ∧
      later.Perm ((built "Crossed" Calc.crossed).nodeIds.filter fun id =>
        !((built "Crossed" Calc.crossed).edgesInto id).isEmpty) ∧
      later.Pairwise (Scheduling.ReleasedBefore (built "Crossed" Calc.crossed).edges
        (built "Crossed" Calc.crossed).compile.1.order) := by
  have hcompiles : (built "Crossed" Calc.crossed).compile.2 = .ok () := rfl
  exact ⟨hcompiles, rfl, order_compile_sorted_by_release hcompiles⟩

end Graph

end Shipwright
