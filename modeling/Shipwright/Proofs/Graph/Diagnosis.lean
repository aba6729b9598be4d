import Shipwright.Proofs.Graph.Calculator
import Shipwright.Proofs.Graph.Compile

/-!
# What the error of a compilation tells

Of the edges that do not resolve the first one is reported, together with the first thing that
is wrong with it. Where all edges resolve, the nodes are reported that are never released:
exactly those that lie on a circle or behind one. On a circle and behind it every node waits
for the one before it; and whoever goes backwards among the nodes that are left comes upon a
circle.
-/

namespace Shipwright

open Relation

/-- Where a list of checks fails, it fails with the first one that does. -/
theorem exists_of_forM_eq_error {ε τ : Type} {check : τ → Except ε Unit} {xs : List τ} {err : ε}
    (h : xs.forM check = .error err) :
    ∃ before x after, xs = before ++ x :: after ∧ (∀ y ∈ before, check y = .ok ()) ∧
      check x = .error err := by
  induction xs with
  | nil => contradiction
  | cons x xs ih =>
    change (check x >>= fun _ => xs.forM check) = .error err at h
    cases hx : check x with
    | error e =>
      rw [hx] at h
      exact ⟨[], x, xs, rfl, nofun, hx.trans h⟩
    | ok u =>
      rw [hx] at h
      obtain ⟨before, y, after, rfl, hbefore, hy⟩ := ih h
      exact ⟨x :: before, y, after, rfl, List.forall_mem_cons.mpr ⟨hx, hbefore⟩, hy⟩

namespace Scheduling

variable {ids : List NodeId} {edges : List Edge}

/-- The unresolved nodes are those whose counters are not zero. -/
theorem Accurate.unresolved_eq {rest : List Edge} {s : Scheduling} (h : Accurate ids rest s)
    (hids : ids.Nodup) : s.unresolved = ids.filter (0 < s.pendingOf ·) := by
  have hkeys := h.keys
  subst hkeys
  rw [unresolved, List.filter_map]
  congr 1
  refine List.filter_congr fun c hc => ?_
  simp [pendingOf, OrderedMap.lookup_of_mem hids hc]

/-- In the end the unresolved nodes are those that have not been taken. -/
theorem mem_unresolved_final (hids : ids.Nodup) (edges : List Edge) (id : NodeId) :
    id ∈ (final ids edges).unresolved ↔ id ∈ ids ∧ id ∉ (final ids edges).order := by
  rw [(sound_final hids edges).accurate.unresolved_eq hids, List.mem_filter, decide_eq_true_iff,
    mem_order_final hids edges, not_and, Nat.pos_iff_ne_zero]
  exact and_congr_right fun hid => ⟨fun hne _ => hne, fun himp => himp hid⟩

/-- A node from which a path leads to a taken one was taken before it. -/
theorem Sound.idxOf_lt_of_path {s : Scheduling} (h : Sound ids edges s) {a b : NodeId}
    (hab : TransGen (Leads edges) a b) (hb : b ∈ s.order) :
    a ∈ s.order ∧ s.order.idxOf a < s.order.idxOf b := by
  have hedge : ∀ {a b : NodeId}, Leads edges a b → b ∈ s.order →
      a ∈ s.order ∧ s.order.idxOf a < s.order.idxOf b := by
    rintro _ _ ⟨e, he, rfl, rfl⟩ hto
    exact ⟨h.accurate.sources_taken he (List.mem_append_left _ hto), h.precedes e he hto⟩
  induction hab with
  | single hab => exact hedge hab hb
  | tail _ hbc ih =>
    obtain ⟨hmid, hlt⟩ := hedge hbc hb
    obtain ⟨ha, hlt'⟩ := ih hmid
    exact ⟨ha, hlt'.trans hlt⟩

/-- In the end the unresolved nodes are those that lie on a circle or behind one. -/
theorem mem_unresolved_final_iff_behind_cycle (hids : ids.Nodup)
    (hends : ∀ e ∈ edges, e.fromNode ∈ ids ∧ e.toNode ∈ ids) (id : NodeId) :
    id ∈ (final ids edges).unresolved ↔
      ∃ n, TransGen (Leads edges) n n ∧ ReflTransGen (Leads edges) n id := by
  have hsound := sound_final hids edges
  rw [mem_unresolved_final hids]
  constructor
  · rintro ⟨hid, hleft⟩
    exact exists_cycle_of_left hids edges (fun e he => (hends e he).1) hid hleft
  · rintro ⟨n, hcycle, hpath⟩
    have hpath : TransGen (Leads edges) n id := hcycle.trans_left hpath
    obtain ⟨_, _, e, he, _, hto⟩ := TransGen.tail'_iff.mp hpath
    refine ⟨hto ▸ (hends e he).2, fun htaken => ?_⟩
    have hn := (hsound.idxOf_lt_of_path hpath htaken).1
    exact Nat.lt_irrefl _ (hsound.idxOf_lt_of_path hcycle hn).2

end Scheduling

namespace Graph

variable {κ ν : Type} [NodeFamily κ]

/-- There is a node of the number whose kind declares the port on that side. -/
def Declares (g : Graph κ ν) (id : NodeId) (direction : PortDirection) (port : PortIndex) : Prop :=
  ∃ n ∈ g.nodes, n.id = id ∧ port.toNat < (NodeFamily.ports n.kind direction).length

instance (g : Graph κ ν) (id : NodeId) (direction : PortDirection) (port : PortIndex) :
    Decidable (g.Declares id direction port) :=
  inferInstanceAs (Decidable (∃ n ∈ g.nodes, _))

/-- What is to be reported of an edge that does not resolve: a missing end, else an output that is
not declared, else an input that is not declared, else that the two do not fit. -/
def fault (g : Graph κ ν) (e : Edge) : CompileError :=
  if e.fromNode ∉ g.nodeIds ∨ e.toNode ∉ g.nodeIds then .danglingEdge e
  else if ¬ g.Declares e.fromNode .output e.fromPort then .invalidPort e.fromNode e.fromPort .output
  else if ¬ g.Declares e.toNode .input e.toPort then .invalidPort e.toNode e.toPort .input
  else .incompatiblePorts e

/-- The node of a number declares the ports that its kind does. -/
theorem declares_iff {g : Graph κ ν} {id : NodeId} {n : Node κ} (hn : g.node? id = some n)
    (direction : PortDirection) (port : PortIndex) :
    g.Declares id direction port ↔ (NodeFamily.port? n.kind direction port).isSome := by
  obtain ⟨hmem, hid⟩ := node?_eq_some_iff.mp hn
  have hsome : (NodeFamily.port? n.kind direction port).isSome ↔
      port.toNat < (NodeFamily.ports n.kind direction).length := by
    simp [NodeFamily.port?]
  rw [hsome]
  constructor
  · rintro ⟨m, hm, hmid, hport⟩
    obtain rfl : m = n := List.inj_on_of_nodup_map g.distinct hm hmem (hmid.trans hid.symm)
    exact hport
  · exact fun hport => ⟨n, hmem, hid, hport⟩

/-- An edge that is refused does not resolve, and its fault is reported. -/
theorem eq_fault_of_checkEdge {g : Graph κ ν} {e : Edge} {err : CompileError}
    (h : g.checkEdge e = .error err) : ¬ g.Resolves e ∧ err = g.fault e := by
  refine ⟨fun hresolves => ?_, ?_⟩
  · rw [checkEdge_eq_ok_iff.mpr hresolves] at h
    contradiction
  · unfold checkEdge at h
    split at h
    · rename_i source target hs ht
      have hends : ¬ (e.fromNode ∉ g.nodeIds ∨ e.toNode ∉ g.nodeIds) := by
        rw [not_or, not_not, not_not]
        exact ⟨exists_node?_iff.mp ⟨source, hs⟩, exists_node?_iff.mp ⟨target, ht⟩⟩
      have hsource := declares_iff hs .output e.fromPort
      have htarget := declares_iff ht .input e.toPort
      rw [fault, if_neg hends]
      split at h
      · rename_i hout
        simpa [hsource, hout] using h.symm
      · rename_i output hout
        split at h
        · rename_i hin
          simpa [hsource, htarget, hout, hin] using h.symm
        · rename_i input hin
          split at h
          · contradiction
          · simpa [hsource, htarget, hout, hin] using h.symm
    · rename_i hends
      have hmissing : e.fromNode ∉ g.nodeIds ∨ e.toNode ∉ g.nodeIds := by
        by_contra hno
        rw [not_or, not_not, not_not] at hno
        obtain ⟨source, hs⟩ := exists_node?_iff.mpr hno.1
        obtain ⟨target, ht⟩ := exists_node?_iff.mpr hno.2
        exact hends source target hs ht
      rw [fault, if_pos hmissing]
      exact (Except.error.inj h).symm

/-- Where all edges resolve and there is no schedule, there is a circle, and the nodes that are
never released are reported. -/
theorem eq_cycleDetected_of_resolves {g : Graph κ ν} {err : CompileError}
    (hresolves : ∀ e ∈ g.edges, g.Resolves e) (h : g.schedule = .error err) :
    err = .cycleDetected (Scheduling.final g.nodeIds g.edges).unresolved ∧ ¬ Acyclic g.edges := by
  have hcheck : g.edges.forM g.checkEdge = .ok () :=
    (forM_eq_ok_iff _ _).mpr fun e he => checkEdge_eq_ok_iff.mpr (hresolves e he)
  constructor
  · rw [schedule, hcheck] at h
    simp only [bind, Except.bind, pure, Except.pure, throw, throwThe, MonadExceptOf.throw] at h
    split at h
    · contradiction
    · exact (Except.error.inj h).symm
  · intro hacyclic
    have hok := schedule_eq_ok_iff.mpr ⟨hresolves, hacyclic, rfl⟩
    rw [h] at hok
    contradiction

/-- The error of a compilation tells what is wrong. Either some edges do not resolve, and it is the
fault of the first of them; or all edges resolve, and it is that of a circle, with exactly the nodes
that lie on a circle or behind one, each of them once and as they were added. -/
theorem compile_error_tells_first_fault_or_cycle {g : Graph κ ν} {err : CompileError}
    (h : g.compile.2 = .error err) :
    (∃ before e after, g.edges = before ++ e :: after ∧ (∀ e' ∈ before, g.Resolves e') ∧
      ¬ g.Resolves e ∧ err = g.fault e) ∨
    ((∀ e ∈ g.edges, g.Resolves e) ∧
      ∃ unresolved, err = .cycleDetected unresolved ∧ unresolved ≠ [] ∧
        unresolved.Sublist g.nodeIds ∧ unresolved.Nodup ∧
        ∀ id, id ∈ unresolved ↔
          ∃ n, TransGen (Leads g.edges) n n ∧ ReflTransGen (Leads g.edges) n id) := by
  have hschedule := compile_eq_error_iff.mp h
  cases hcheck : g.edges.forM g.checkEdge with
  | error e =>
    rw [schedule, hcheck] at hschedule
    obtain rfl : e = err := Except.error.inj hschedule
    obtain ⟨before, x, after, hedges, hbefore, hx⟩ := exists_of_forM_eq_error hcheck
    obtain ⟨hno, hfault⟩ := eq_fault_of_checkEdge hx
    exact .inl ⟨before, x, after, hedges,
      fun e' he' => checkEdge_eq_ok_iff.mp (hbefore e' he'), hno, hfault⟩
  | ok u =>
    have hresolves : ∀ e ∈ g.edges, g.Resolves e := fun e he =>
      checkEdge_eq_ok_iff.mp ((forM_eq_ok_iff _ _).mp hcheck e he)
    obtain ⟨herr, hcyclic⟩ := eq_cycleDetected_of_resolves hresolves hschedule
    have hmem := Scheduling.mem_unresolved_final_iff_behind_cycle g.nodup_nodeIds
      fun e he => (hresolves e he).ends_mem
    have hsub : (Scheduling.final g.nodeIds g.edges).unresolved.Sublist g.nodeIds := by
      have haccurate := (Scheduling.sound_final g.nodup_nodeIds g.edges).accurate
      rw [haccurate.unresolved_eq g.nodup_nodeIds]
      exact List.filter_sublist
    refine .inr ⟨hresolves, _, herr, ?_, hsub, hsub.nodup g.nodup_nodeIds, hmem⟩
    obtain ⟨n, hn⟩ := not_forall_not.mp hcyclic
    exact List.ne_nil_of_mem ((hmem n).mpr ⟨n, hn, .refl⟩)

/-- A sum that takes its own total, and the nodes before and behind it: of these only the constant
can be released. -/
theorem compile_looped_tells_cycle :
    (built "Looped" Calc.looped).compile.2 = .error (.cycleDetected [⟨2⟩, ⟨3⟩, ⟨4⟩]) ∧
    ((∃ before e after, (built "Looped" Calc.looped).edges = before ++ e :: after ∧
        (∀ e' ∈ before, (built "Looped" Calc.looped).Resolves e') ∧
        ¬ (built "Looped" Calc.looped).Resolves e ∧
        CompileError.cycleDetected [⟨2⟩, ⟨3⟩, ⟨4⟩] = (built "Looped" Calc.looped).fault e) ∨
      ((∀ e ∈ (built "Looped" Calc.looped).edges, (built "Looped" Calc.looped).Resolves e) ∧
        ∃ unresolved, CompileError.cycleDetected [⟨2⟩, ⟨3⟩, ⟨4⟩] = .cycleDetected unresolved ∧
          unresolved ≠ [] ∧ unresolved.Sublist (built "Looped" Calc.looped).nodeIds ∧
          unresolved.Nodup ∧
          ∀ id, id ∈ unresolved ↔
            ∃ n, TransGen (Leads (built "Looped" Calc.looped).edges) n n ∧
              ReflTransGen (Leads (built "Looped" Calc.looped).edges) n id)) := by
  have herror : (built "Looped" Calc.looped).compile.2 =
      .error (.cycleDetected [⟨2⟩, ⟨3⟩, ⟨4⟩]) := rfl
  exact ⟨herror, compile_error_tells_first_fault_or_cycle herror⟩

end Graph

end Shipwright
