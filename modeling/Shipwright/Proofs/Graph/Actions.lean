import Shipwright.Proofs.Graph.ReleaseKey
import Mathlib.Logic.Function.Iterate

/-!
# The scheduler, one action at a time

A step of the scheduler takes a node and relaxes every edge that leaves it. Here the same loop is
told by its single actions, so that it can be said what stands in the counters before and after
each relaxation, and what the loop does how often. It makes no difference whether the edges run in
circles, lead from a node to itself or are there several times: a node enters the queue once at
most, an edge is relaxed once at most, and no counter is lowered that is zero already. So there are
no more actions than nodes and edges, and after them the loop has come to its end.
-/

namespace Shipwright

namespace Scheduling

/-- The scheduler between two of its actions. -/
structure Underway where
  /-- The queue, the order and the counters. -/
  state : Scheduling
  /-- The edges of the node taken last that are due to be relaxed, each with its place among all
  edges. -/
  due : List (Edge × Nat)
  deriving DecidableEq, Repr

namespace Underway

/-- The next action: relaxing the edge that is due, or taking the next released node where none is.
Where there is neither, nothing happens any more. -/
def act (edges : List Edge) : Underway → Underway
  | ⟨s, x :: due⟩ => ⟨s.relax x.1, due⟩
  | ⟨s, []⟩ =>
    match s.queue with
    | [] => ⟨s, []⟩
    | id :: queue => ⟨{ s with queue, order := s.order ++ [id] }, leaving edges id⟩

/-- The scheduler after a number of actions. -/
def after (ids : List NodeId) (edges : List Edge) (t : Nat) : Underway :=
  (act edges)^[t] ⟨initial ids edges, []⟩

/-- The nodes that have entered the queue until then: those that it held at first, and then
whatever an action put behind the nodes that were waiting. -/
def entered (ids : List NodeId) (edges : List Edge) : Nat → List NodeId
  | 0 => (after ids edges 0).state.queue
  | t + 1 => entered ids edges t ++
      (after ids edges (t + 1)).state.queue.drop (after ids edges t).state.queue.length

/-- The edges that have been relaxed until then, each with its place among all edges. -/
def relaxed (ids : List NodeId) (edges : List Edge) : Nat → List (Edge × Nat)
  | 0 => []
  | t + 1 => relaxed ids edges t ++ (after ids edges t).due.take 1

/-- Nothing is left to do. -/
def Over (u : Underway) : Prop := u.due = [] ∧ u.state.queue = []

variable {ids : List NodeId} {edges : List Edge} {u : Underway}

/-- Where no edge is due, an action takes the next released node. -/
theorem act_of_queue_eq_cons {s : Scheduling} {id : NodeId} {queue : List NodeId}
    (edges : List Edge) (h : s.queue = id :: queue) :
    act edges ⟨s, []⟩ = ⟨{ s with queue, order := s.order ++ [id] }, leaving edges id⟩ := by
  simp only [act, h]

/-- When nothing is left to do, it stays so. -/
theorem Over.act_eq (h : u.Over) (edges : List Edge) : u.act edges = u := by
  obtain ⟨s, due⟩ := u
  have hdue : due = [] := h.1
  have hqueue : s.queue = [] := h.2
  subst hdue
  simp only [act, hqueue]

/-- An action relaxes an edge, or takes a node, or nothing is left to do. -/
theorem act_cases (edges : List Edge) (u : Underway) :
    (∃ x due, u.due = x :: due ∧ u.act edges = ⟨u.state.relax x.1, due⟩) ∨
    (∃ id queue, u.due = [] ∧ u.state.queue = id :: queue ∧
      u.act edges = ⟨{ u.state with queue, order := u.state.order ++ [id] }, leaving edges id⟩) ∨
    (u.Over ∧ u.act edges = u) := by
  obtain ⟨s, due⟩ := u
  cases due with
  | cons x due => exact .inl ⟨x, due, rfl, rfl⟩
  | nil =>
    cases hqueue : s.queue with
    | nil =>
      have hover : Over ⟨s, []⟩ := ⟨rfl, hqueue⟩
      exact .inr (.inr ⟨hover, hover.act_eq edges⟩)
    | cons id queue => exact .inr (.inl ⟨id, queue, rfl, rfl, act_of_queue_eq_cons edges hqueue⟩)

/-- One action more. -/
theorem after_succ (ids : List NodeId) (edges : List Edge) (t : Nat) :
    after ids edges (t + 1) = (after ids edges t).act edges :=
  Function.iterate_succ_apply' _ _ _

/-- What nothing is left to do for has come to its end. -/
theorem Over.after_add {t : Nat} (h : (after ids edges t).Over) (k : Nat) :
    after ids edges (k + t) = after ids edges t := by
  rw [after, Function.iterate_add_apply]
  exact Function.iterate_fixed (h.act_eq edges) k

section Steps

/-- The edges that are due are relaxed one after the other. -/
theorem iterate_act_due (edges : List Edge) (s : Scheduling) (xs : List (Edge × Nat)) :
    (act edges)^[xs.length] ⟨s, xs⟩ = ⟨(xs.map Prod.fst).foldl relax s, []⟩ := by
  induction xs generalizing s with
  | nil => rfl
  | cons x xs ih => exact ih (s.relax x.1)

/-- A step of the scheduler is made of actions. -/
theorem exists_iterate_act_eq_step (edges : List Edge) (s : Scheduling) :
    ∃ t, (act edges)^[t] ⟨s, []⟩ = ⟨s.step edges, []⟩ := by
  cases hqueue : s.queue with
  | nil => exact ⟨0, by rw [step_nil edges hqueue]; rfl⟩
  | cons id queue =>
    refine ⟨(leaving edges id).length + 1, ?_⟩
    rw [Function.iterate_succ_apply, act_of_queue_eq_cons edges hqueue, iterate_act_due,
      map_fst_leaving, step_cons edges hqueue]

/-- So is any number of steps. -/
theorem exists_after_eq_steps (ids : List NodeId) (edges : List Edge) (n : Nat) :
    ∃ t, after ids edges t = ⟨steps edges n (initial ids edges), []⟩ := by
  suffices h : ∀ s, ∃ t, (act edges)^[t] ⟨s, []⟩ = ⟨steps edges n s, []⟩ from h _
  induction n with
  | zero => exact fun s => ⟨0, rfl⟩
  | succ n ih =>
    intro s
    obtain ⟨t, ht⟩ := exists_iterate_act_eq_step edges s
    obtain ⟨t', ht'⟩ := ih (s.step edges)
    exact ⟨t' + t, by rw [Function.iterate_add_apply, ht, ht']; rfl⟩

end Steps

/-- What holds before and after every action: the edges that are due and those whose source has not
been taken have not been relaxed, and no others. -/
def Sound (ids : List NodeId) (edges : List Edge) (u : Underway) : Prop :=
  Accurate ids (u.due.map Prod.fst ++ unrelaxed edges u.state) u.state

/-- An action keeps this. -/
theorem Sound.act (h : Sound ids edges u) : Sound ids edges (u.act edges) := by
  unfold Sound at h ⊢
  obtain ⟨x, due, hdue, hact⟩ | ⟨id, queue, hdue, hqueue, hact⟩ | ⟨-, hact⟩ := act_cases edges u
  · rw [hdue] at h
    rw [hact]
    exact Accurate.relax h
  · have hid := h.head_notMem_order hqueue
    rw [hdue] at h
    rw [hact, map_fst_leaving]
    exact (h.take hqueue).perm (unrelaxed_perm Edge.fromNode edges hid)
  · rwa [hact]

/-- Any number of actions keeps it. -/
theorem sound_after (hids : ids.Nodup) (edges : List Edge) (t : Nat) :
    Sound ids edges (after ids edges t) := by
  induction t with
  | zero => exact (Scheduling.Sound.initial hids edges).accurate
  | succ t ih => exact after_succ ids edges t ▸ ih.act

/-- What an action puts into the queue comes behind what has been taken and what is waiting. -/
theorem released_act (edges : List Edge) (u : Underway) :
    (u.act edges).state.order ++ (u.act edges).state.queue =
      u.state.order ++ u.state.queue ++
        (u.act edges).state.queue.drop u.state.queue.length := by
  obtain ⟨x, due, -, hact⟩ | ⟨id, queue, -, hqueue, hact⟩ | ⟨-, hact⟩ := act_cases edges u
  · rw [hact]
    simp only [order_relax, queue_relax]
    split <;> simp
  · rw [hact]
    simp [hqueue]
  · rw [hact]
    simp

/-- The nodes that have entered the queue have been taken or are waiting, in this order. -/
theorem entered_eq (ids : List NodeId) (edges : List Edge) (t : Nat) :
    entered ids edges t =
      (after ids edges t).state.order ++ (after ids edges t).state.queue := by
  induction t with
  | zero => rfl
  | succ t ih => rw [entered, ih, after_succ, released_act]

/-- No node enters the queue twice. -/
theorem nodup_entered (hids : ids.Nodup) (edges : List Edge) (t : Nat) :
    (entered ids edges t).Nodup := by
  rw [entered_eq]
  exact (sound_after hids edges t).nodup

/-- An action relaxes the edge that is due, and no other is lost or added. -/
theorem due_act_perm (h : Sound ids edges u) :
    (u.due.take 1 ++ ((u.act edges).due ++ remaining edges (u.act edges).state)).Perm
      (u.due ++ remaining edges u.state) := by
  obtain ⟨x, due, hdue, hact⟩ | ⟨id, queue, hdue, hqueue, hact⟩ | ⟨hover, hact⟩ :=
    act_cases edges u
  · rw [hact, hdue]
    exact .refl _
  · have hid : id ∉ u.state.order := Accurate.head_notMem_order h hqueue
    rw [hact, hdue]
    exact (unrelaxed_perm (fun x : Edge × Nat => x.1.fromNode) edges.zipIdx hid).symm
  · rw [hact, hover.1]
    exact .refl _

/-- Every edge has been relaxed, or is due, or leaves a node that has not been taken. -/
theorem relaxed_perm (hids : ids.Nodup) (edges : List Edge) (t : Nat) :
    (relaxed ids edges t ++ ((after ids edges t).due ++
      remaining edges (after ids edges t).state)).Perm edges.zipIdx := by
  induction t with
  | zero => simp [relaxed, after, remaining, Scheduling.initial]
  | succ t ih =>
    rw [relaxed, after_succ, List.append_assoc]
    exact ((due_act_perm (sound_after hids edges t)).append_left _).trans ih

/-- No edge is relaxed twice. -/
theorem nodup_relaxed (hids : ids.Nodup) (edges : List Edge) (t : Nat) :
    (relaxed ids edges t).Nodup := by
  have hplaces : (edges.zipIdx.map Prod.snd).Nodup := by
    rw [List.zipIdx_map_snd]
    exact List.nodup_range'
  have hall := (relaxed_perm hids edges t).nodup_iff.mpr hplaces.of_map
  exact (List.nodup_append.mp hall).1

/-- What is due is an edge. -/
theorem mem_of_due (hids : ids.Nodup) {t : Nat} {x : Edge × Nat}
    (hx : x ∈ (after ids edges t).due) : x.1 ∈ edges :=
  List.fst_mem_of_mem_zipIdx <| (relaxed_perm hids edges t).mem_iff.mp <|
    List.mem_append_right _ (List.mem_append_left _ hx)

/-- Until nothing is left to do, every action takes a node or relaxes an edge. -/
theorem over_after_or (ids : List NodeId) (edges : List Edge) (t : Nat) :
    (after ids edges t).Over ∨
      (after ids edges t).state.order.length + (relaxed ids edges t).length = t := by
  induction t with
  | zero => exact .inr rfl
  | succ t ih =>
    rw [after_succ, relaxed, List.length_append]
    obtain ⟨x, due, hdue, hact⟩ | ⟨id, queue, hdue, hqueue, hact⟩ | ⟨hover, hact⟩ :=
      act_cases edges (after ids edges t)
    · have hbusy := ih.resolve_left fun hover => by simp [hover.1] at hdue
      refine .inr ?_
      rw [hact, hdue]
      simp only [order_relax, List.take_succ_cons, List.length_cons, List.take_zero,
        List.length_nil]
      omega
    · have hbusy := ih.resolve_left fun hover => by simp [hover.2] at hqueue
      refine .inr ?_
      rw [hact, hdue]
      simp only [List.length_append, List.length_cons, List.length_nil, List.take_nil]
      omega
    · exact .inl (hact.symm ▸ hover)

/-- As many actions as there are nodes and edges leave nothing to do. -/
theorem over_after (hids : ids.Nodup) {t : Nat} (ht : ids.length + edges.length ≤ t) :
    (after ids edges t).Over := by
  obtain hover | hbusy := over_after_or ids edges t
  · exact hover
  · have hnodes := Accurate.length_le (sound_after hids edges t)
    have hedges := (relaxed_perm hids edges t).length_eq
    rw [List.length_append, List.length_append, List.length_zipIdx] at hedges
    exact ⟨List.eq_nil_of_length_eq_zero (by omega), List.eq_nil_of_length_eq_zero (by omega)⟩

/-- What the actions come to is the final state of the scheduler. -/
theorem after_eq_final (hids : ids.Nodup) {t : Nat} (ht : ids.length + edges.length ≤ t) :
    after ids edges t = ⟨final ids edges, []⟩ := by
  obtain ⟨t', ht'⟩ := exists_after_eq_steps ids edges ids.length
  have hfinal : after ids edges t' = ⟨final ids edges, []⟩ := ht'
  have hover : (after ids edges t').Over := by
    rw [hfinal]
    exact ⟨rfl, queue_final hids edges⟩
  rw [← (over_after hids ht).after_add t', Nat.add_comm, hover.after_add, hfinal]

/-- Relaxing the edge that is due lowers the counter of its target, which was not zero. -/
theorem pendingOf_of_due (h : Sound ids edges u) {x : Edge × Nat} (hx : x ∈ u.due.head?)
    (hmem : x.1.toNode ∈ ids) :
    u.state.pendingOf x.1.toNode = (u.act edges).state.pendingOf x.1.toNode + 1 := by
  obtain ⟨y, due, hdue, hact⟩ | ⟨id, queue, hdue, -, -⟩ | ⟨hover, -⟩ := act_cases edges u
  · obtain rfl : y = x := by simpa [hdue] using hx
    have hcount := h.counts _ hmem
    rw [hdue, List.map_cons, List.cons_append, List.countP_cons, if_pos (by simp)] at hcount
    rw [hact, pendingOf_relax, if_pos rfl]
    omega
  · simp [hdue] at hx
  · simp [hover.1] at hx

end Underway

/-- How the scheduler goes about its work, whatever the edges are like. -/
structure Orderly (ids : List NodeId) (edges : List Edge) : Prop where
  /-- The actions are those of the scheduler: after any number of its steps the same stands in
  queue, order and counters as after some number of actions. -/
  steps_of_actions : ∀ n, ∃ t, Underway.after ids edges t = ⟨steps edges n (initial ids edges), []⟩
  /-- As many actions as there are nodes and edges lead to the final state, where nothing is left
  to do. -/
  ends : ∀ t, ids.length + edges.length ≤ t →
    Underway.after ids edges t = ⟨final ids edges, []⟩ ∧ (final ids edges).queue = []
  /-- No node enters the queue twice. -/
  entered_once : ∀ t, (Underway.entered ids edges t).Nodup
  /-- No edge is relaxed twice; edges that are alike are told apart by their places. -/
  relaxed_once : ∀ t, (Underway.relaxed ids edges t).Nodup
  /-- Whenever an edge is relaxed, the counter of its target is one less than it was before. -/
  lowered : ∀ t, ∀ x ∈ (Underway.after ids edges t).due.head?, x.1.toNode ∈ ids ∧
    (Underway.after ids edges t).state.pendingOf x.1.toNode =
      (Underway.after ids edges (t + 1)).state.pendingOf x.1.toNode + 1
  /-- Before and after every step a counter counts the edges into its node whose source has not
  been taken. -/
  counts : ∀ n, ∀ id ∈ ids, (steps edges n (initial ids edges)).pendingOf id =
    edges.countP fun e => e.toNode = id ∧ e.fromNode ∉ (steps edges n (initial ids edges)).order

end Scheduling

namespace Graph

open Scheduling

variable {κ ν : Type} [NodeFamily κ]

/-- On every graph whose edges resolve the loop of the scheduler is safe and ends: a node enters the
queue once at most, an edge is relaxed once at most, each relaxation lowers a counter that is not
zero, the counters count the edges whose source is still to be taken, and no more actions are
needed than there are nodes and edges. -/
theorem schedules_orderly {g : Graph κ ν} (h : ∀ e ∈ g.edges, g.Resolves e) :
    Orderly g.nodeIds g.edges where
  steps_of_actions := Underway.exists_after_eq_steps g.nodeIds g.edges
  ends _ ht := ⟨Underway.after_eq_final g.nodup_nodeIds ht, queue_final g.nodup_nodeIds g.edges⟩
  entered_once := Underway.nodup_entered g.nodup_nodeIds g.edges
  relaxed_once := Underway.nodup_relaxed g.nodup_nodeIds g.edges
  lowered t x hx := by
    have hsound := Underway.sound_after g.nodup_nodeIds g.edges t
    have hedge := Underway.mem_of_due g.nodup_nodeIds (List.mem_of_mem_head? hx)
    have htarget := (h x.1 hedge).ends_mem.2
    rw [Underway.after_succ]
    exact ⟨htarget, Underway.pendingOf_of_due hsound hx htarget⟩
  counts n id hid := by
    have hsound := (Sound.initial g.nodup_nodeIds g.edges).steps n
    rw [hsound.accurate.counts id hid, unrelaxed, List.countP_filter]
    simp

/-- A constant leads into a sum by three edges, two of which are alike, and the sum leads to two
others that are on a circle and, one of them, on two loops: four of eight edges are relaxed. -/
theorem schedules_tangled_orderly :
    (∀ e ∈ (built "Tangled" Calc.tangled).edges, (built "Tangled" Calc.tangled).Resolves e) ∧
    (built "Tangled" Calc.tangled).compile.2 = .error (.cycleDetected [⟨3⟩, ⟨4⟩]) ∧
    Underway.entered (built "Tangled" Calc.tangled).nodeIds
      (built "Tangled" Calc.tangled).edges 12 = [⟨1⟩, ⟨2⟩] ∧
    (Underway.relaxed (built "Tangled" Calc.tangled).nodeIds
      (built "Tangled" Calc.tangled).edges 12).map Prod.snd = [0, 1, 2, 3] ∧
    Orderly (built "Tangled" Calc.tangled).nodeIds (built "Tangled" Calc.tangled).edges := by
  have hresolves : ∀ e ∈ (built "Tangled" Calc.tangled).edges,
      (built "Tangled" Calc.tangled).Resolves e := fun e he =>
    checkEdge_eq_ok_iff.mp ((forM_eq_ok_iff _ _).mp rfl e he)
  exact ⟨hresolves, rfl, rfl, rfl, schedules_orderly hresolves⟩

end Graph

end Shipwright
