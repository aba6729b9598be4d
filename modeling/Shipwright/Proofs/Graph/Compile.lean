import Shipwright.Proofs.Graph.Release

/-!
# Compilation finds an order exactly where there is one

A graph has a schedule exactly when all its edges resolve and they run in no
circle, and the schedule then is an order of the nodes that respects the edges.
Compiling stores it and leaves everything else of the graph alone.
-/

namespace Shipwright

/-- A list of checks passes exactly when each of them does. -/
theorem forM_eq_ok_iff {ε τ : Type} (check : τ → Except ε Unit) (xs : List τ) :
    xs.forM check = .ok () ↔ ∀ x ∈ xs, check x = .ok () := by
  induction xs with
  | nil => simp [pure, Except.pure]
  | cons x xs ih =>
    rw [List.forall_mem_cons]
    change (check x >>= fun _ => xs.forM check) = .ok () ↔ _
    cases h : check x with
    | error e => simp [bind, Except.bind]
    | ok u => simpa [bind, Except.bind] using ih

namespace Graph

variable {κ ν : Type} [NodeFamily κ]

/-- Without a circle, and with edges that resolve, the scheduler takes every node; otherwise
there is no schedule. -/
theorem schedule_eq_ok_iff {g : Graph κ ν} {order : List NodeId} :
    g.schedule = .ok order ↔
      (∀ e ∈ g.edges, g.Resolves e) ∧ Acyclic g.edges ∧
        order = (Scheduling.final g.nodeIds g.edges).order := by
  have hchecked : g.edges.forM g.checkEdge = .ok () ↔ ∀ e ∈ g.edges, g.Resolves e := by
    simp only [forM_eq_ok_iff, checkEdge_eq_ok_iff]
  have hcount : g.nodeIds.length = g.nodes.length := List.length_map _
  unfold schedule
  cases hcheck : g.edges.forM g.checkEdge with
  | error e =>
    have hno : ¬ ∀ e ∈ g.edges, g.Resolves e := by
      rw [← hchecked, hcheck]
      exact fun h => nomatch h
    simp [bind, Except.bind, hno]
  | ok u =>
    have hresolves := hchecked.mp hcheck
    by_cases hall : (Scheduling.final g.nodeIds g.edges).order.length = g.nodes.length
    · have htop := Scheduling.topological_final g.nodup_nodeIds g.edges
        (fun e he => (hresolves e he).ends_mem.2) (hall.trans hcount.symm)
      have hok : order = (Scheduling.final g.nodeIds g.edges).order → ∀ e ∈ g.edges, g.Resolves e :=
        fun _ => hresolves
      simpa [bind, Except.bind, pure, Except.pure, hall, htop.acyclic, eq_comm] using hok
    · have hcyclic : ¬ Acyclic g.edges := fun hacyclic =>
        hall ((Scheduling.length_order_final g.nodup_nodeIds g.edges
          (fun e he => (hresolves e he).ends_mem.1) hacyclic).trans hcount)
      simp [bind, Except.bind, throw, throwThe, MonadExceptOf.throw, hall, hcyclic]

/-- The schedule of a graph is an order of its nodes that respects its edges. -/
theorem topological_of_schedule {g : Graph κ ν} {order : List NodeId}
    (h : g.schedule = .ok order) : Topological g.nodeIds g.edges order := by
  obtain ⟨hresolves, hacyclic, rfl⟩ := schedule_eq_ok_iff.mp h
  exact Scheduling.topological_final g.nodup_nodeIds g.edges
    (fun e he => (hresolves e he).ends_mem.2)
    (Scheduling.length_order_final g.nodup_nodeIds g.edges
      (fun e he => (hresolves e he).ends_mem.1) hacyclic)

/-- Compiling a graph that has a schedule stores it. -/
theorem compile_of_schedule {g : Graph κ ν} {order : List NodeId} (h : g.schedule = .ok order) :
    g.compile = ({ g with order, compiled := true }, .ok ()) := by
  simp [compile, h]

/-- Compiling a graph that has no schedule drops the order. -/
theorem compile_of_no_schedule {g : Graph κ ν} {e : CompileError} (h : g.schedule = .error e) :
    g.compile = ({ g with order := [], compiled := false }, .error e) := by
  simp [compile, h]

/-- Compiling succeeds where there is a schedule. -/
theorem compile_eq_ok_iff {g : Graph κ ν} :
    g.compile.2 = .ok () ↔ ∃ order, g.schedule = .ok order := by
  cases h : g.schedule with
  | ok order => simp [compile_of_schedule h]
  | error e => simp [compile_of_no_schedule h]

/-- Compiling fails with the reason why there is no schedule. -/
theorem compile_eq_error_iff {g : Graph κ ν} {err : CompileError} :
    g.compile.2 = .error err ↔ g.schedule = .error err := by
  cases h : g.schedule with
  | ok order => simp [compile_of_schedule h]
  | error e => simp [compile_of_no_schedule h]

/-- Compiling succeeds exactly when every edge resolves and no path returns to where it began.
After success the order has every node once, with the source of every edge before its target;
after failure there is none. Nodes, edges, numbers and cached values stay as they are. -/
theorem compile_ok_iff_resolves_and_acyclic (g : Graph κ ν) :
    (g.compile.2 = .ok () ↔ (∀ e ∈ g.edges, g.Resolves e) ∧ Acyclic g.edges) ∧
    (g.compile.2 = .ok () →
      g.compile.1.compiled = true ∧ Topological g.nodeIds g.edges g.compile.1.order) ∧
    (g.compile.2 ≠ .ok () → g.compile.1.compiled = false ∧ g.compile.1.order = []) ∧
    g.compile.1.name = g.name ∧ g.compile.1.nodes = g.nodes ∧ g.compile.1.edges = g.edges ∧
      g.compile.1.nextId = g.nextId ∧ g.compile.1.outputs = g.outputs := by
  cases h : g.schedule with
  | ok order =>
    obtain ⟨hresolves, hacyclic, _⟩ := schedule_eq_ok_iff.mp h
    rw [compile_of_schedule h]
    exact ⟨⟨fun _ => ⟨hresolves, hacyclic⟩, fun _ => rfl⟩,
      fun _ => ⟨rfl, topological_of_schedule h⟩, fun hne => absurd rfl hne, rfl, rfl, rfl, rfl, rfl⟩
  | error e =>
    have hno : ¬ ((∀ e ∈ g.edges, g.Resolves e) ∧ Acyclic g.edges) := by
      rintro ⟨hresolves, hacyclic⟩
      have hok : g.schedule = .ok (Scheduling.final g.nodeIds g.edges).order :=
        schedule_eq_ok_iff.mpr ⟨hresolves, hacyclic, rfl⟩
      rw [h] at hok
      contradiction
    rw [compile_of_no_schedule h]
    exact ⟨⟨(nomatch ·), fun hyes => absurd hyes hno⟩, (nomatch ·), fun _ => ⟨rfl, rfl⟩,
      rfl, rfl, rfl, rfl, rfl⟩

end Graph

end Shipwright
