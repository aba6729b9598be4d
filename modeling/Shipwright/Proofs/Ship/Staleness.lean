import Shipwright.Proofs.Ship.Execution

/-!
# Nothing changes behind the mark

What is placed on a ship lies outside its graph, so every change of it has to mark the
compiled order as stale by itself. It is said once what an operation can do to a ship
that is marked as compiled afterwards: compile it, or touch nothing but cached meshes
and the history. So a ship that is marked is the ship that was last compiled, and
however often it is executed, the meshes are the same.
-/

namespace Shipwright

variable {α : Type}

/-- Setting a property changes nothing or marks the order as stale. -/
theorem Graph.setProperty_eq_or_stale {κ ν : Type} (g : Graph κ ν) (id : NodeId)
    (key value : String) :
    (g.setProperty id key value).1 = g ∨ (g.setProperty id key value).1.compiled = false := by
  unfold setProperty
  split
  · exact .inr rfl
  · exact .inl rfl

namespace Assembly

/-- The one ship has the stages, properties, edges and elements of the other. -/
structure Unchanged (a b : Assembly α) : Prop where
  /-- The stages with their properties are the same. -/
  nodes : b.graph.nodes = a.graph.nodes
  /-- The edges are the same. -/
  edges : b.graph.edges = a.graph.edges
  /-- The elements of all kinds are the same. -/
  elements : b.elements = a.elements

/-- Two steps that change nothing are one. -/
theorem Unchanged.trans {a b c : Assembly α} (hab : a.Unchanged b) (hbc : b.Unchanged c) :
    a.Unchanged c :=
  ⟨hbc.nodes.trans hab.nodes, hbc.edges.trans hab.edges, hbc.elements.trans hab.elements⟩

/-- The one ship is the other but for cached meshes and recorded edits. -/
def SameButMemory (a b : Assembly α) : Prop :=
  ∃ outputs history, b = { a with graph := { a.graph with outputs }, history }

namespace SameButMemory

variable {a b c : Assembly α}

/-- A ship is the same as itself. -/
theorem refl (a : Assembly α) : a.SameButMemory a := ⟨a.graph.outputs, a.history, rfl⟩

/-- Memories of two steps are one memory. -/
theorem trans (hab : a.SameButMemory b) (hbc : b.SameButMemory c) : a.SameButMemory c := by
  obtain ⟨_, _, rfl⟩ := hab
  obtain ⟨outputs, history, rfl⟩ := hbc
  exact ⟨outputs, history, rfl⟩

/-- Memory is no part of the stages, edges and elements. -/
theorem unchanged (h : a.SameButMemory b) : a.Unchanged b := by
  obtain ⟨_, _, rfl⟩ := h
  exact ⟨rfl, rfl, rfl⟩

end SameButMemory

/-- A ship that is marked as compiled keeps what its run yields. -/
theorem execute_of_run [Trigonometric α] {a : Assembly α} {cache : OutputCache (Mesh α)}
    (hc : a.compiled = true) (hrun : a.graph.run (Stage.evaluator a.elements) = .ok cache) :
    a.execute = ({ a with graph := { a.graph with outputs := cache } }, .ok ()) := by
  rw [execute, Graph.execute_of_run hc hrun]

/-- Memory is no part of what a run depends on. -/
theorem SameButMemory.execute_eq [Trigonometric α] {a b : Assembly α} (h : a.SameButMemory b)
    (hc : a.compiled = true) {cache : OutputCache (Mesh α)}
    (hrun : a.graph.run (Stage.evaluator a.elements) = .ok cache) :
    b.execute = ({ b with graph := { b.graph with outputs := cache } }, .ok ()) := by
  obtain ⟨_, _, rfl⟩ := h
  exact execute_of_run hc hrun

variable [Trigonometric α] {a : Assembly α}

/-- What an operation has done to a ship that is marked as compiled afterwards: it has compiled the
ship, or the ship was marked before and is the same but for its memory. -/
theorem apply_of_compiled {op : Op α} (h : (a.apply op).compiled = true) :
    op = .compile ∧ a.compile.2 = .ok () ∧ a.Unchanged (a.apply op) ∨
      a.compiled = true ∧ a.SameButMemory (a.apply op) := by
  have hedit : ∀ b : Assembly α, b.compiled = true → a.Edited b →
      a.compiled = true ∧ a.SameButMemory b := by
    rintro b hb (rfl | ⟨elements, rfl⟩)
    · exact ⟨hb, .refl b⟩
    · exact absurd hb Bool.false_ne_true
  cases op with
  | addNode kind => exact absurd h Bool.false_ne_true
  | setProperty id key value =>
    rcases a.graph.setProperty_eq_or_stale id key value with hkept | hstale
    · have hsame : a.apply (.setProperty id key value) = a :=
        congrArg (fun g => { a with graph := g }) hkept
      exact .inr (hedit _ h (.inl hsame))
    · exact absurd (hstale.symm.trans h) Bool.false_ne_true
  | removeNode id => exact absurd h Bool.false_ne_true
  | addEdge e => exact absurd h Bool.false_ne_true
  | removeEdge e => exact absurd h Bool.false_ne_true
  | usePipeline segments => exact absurd h Bool.false_ne_true
  | compile =>
    have hcompiled : a.graph.compile.1.compiled = true := h
    simp only [apply, compile]
    unfold Graph.compile at hcompiled ⊢
    split at hcompiled
    · exact .inl ⟨trivial, rfl, rfl, rfl, rfl⟩
    · exact absurd hcompiled Bool.false_ne_true
  | execute =>
    obtain ⟨outputs, hgraph⟩ := a.graph.execute_eq_withOutputs (Stage.evaluator a.elements)
    have hexecute : a.apply .execute = { a with graph := { a.graph with outputs } } :=
      congrArg (fun g => { a with graph := g }) hgraph
    rw [hexecute] at h ⊢
    exact .inr ⟨h, outputs, a.history, rfl⟩
  | add part => cases part <;> exact absurd h Bool.false_ne_true
  | remove kind id => cases kind <;> exact .inr (hedit _ h (edited_remove a id))
  | move kind id position => cases kind <;> exact .inr (hedit _ h (edited_move a id position))
  | setRadius id radius =>
    exact .inr (hedit _ h (edited_modify a id fun c : ControlPoint α => { c with radius }))
  | generate seed className settings => exact absurd h Bool.false_ne_true
  | importDesign d => exact absurd h Bool.false_ne_true
  | applyProfile p blend => exact .inr (hedit _ h (edited_applyProfile a p blend))
  | record e => exact .inr ⟨h, a.graph.outputs, a.history ++ [e], rfl⟩
  | clone => exact .inr ⟨h, .refl a⟩

/-- Whatever has been done to a ship without compiling it, if it is marked as compiled it was so
before and is the same but for its memory. -/
theorem sameButMemory_applyAll {later : List (Op α)} (hlater : ∀ op ∈ later, op ≠ .compile)
    (h : (a.applyAll later).compiled = true) :
    a.compiled = true ∧ a.SameButMemory (a.applyAll later) := by
  induction later using List.reverseRecOn with
  | nil => exact ⟨h, .refl a⟩
  | append_singleton later op ih =>
    rw [List.forall_mem_append, List.forall_mem_singleton] at hlater
    rw [applyAll_concat] at h ⊢
    rcases apply_of_compiled h with ⟨rfl, _⟩ | ⟨hbefore, hsame⟩
    · exact absurd rfl hlater.2
    · obtain ⟨hc, hstart⟩ := ih hlater.1 hbefore
      exact ⟨hc, hstart.trans hsame⟩

/-- Executing a ship once more changes nothing. -/
theorem applyAll_replicate_execute {cache : OutputCache (Mesh α)} (hc : a.compiled = true)
    (hrun : a.graph.run (Stage.evaluator a.elements) = .ok cache) (n : Nat) :
    a.applyAll (List.replicate (n + 1) .execute) = a.apply .execute := by
  have honce : a.apply .execute = { a with graph := { a.graph with outputs := cache } } :=
    congrArg Prod.fst (execute_of_run hc hrun)
  have hsame : a.SameButMemory (a.apply .execute) := ⟨cache, a.history, honce⟩
  have hagain : (a.apply .execute).apply .execute = a.apply .execute := by
    refine (congrArg Prod.fst (hsame.execute_eq hc hrun)).trans ?_
    rw [honce]
  induction n with
  | zero => rfl
  | succ n ih =>
    rw [List.replicate_succ', applyAll_concat, ih, hagain]

/-- An operation compiles a ship and succeeds. -/
def Compiles (a : Assembly α) (op : Op α) : Prop := op = .compile ∧ a.compile.2 = .ok ()

/-- A ship that is marked as compiled was compiled at some point, and nothing has changed since that
succeeded last. -/
theorem exists_last_compile {ops : List (Op α)} (h : (empty.applyAll ops).compiled = true) :
    ∃ before op after, ops = before ++ op :: after ∧ (empty.applyAll before).Compiles op ∧
      (∀ mid op' later, after = mid ++ op' :: later →
        ¬ (empty.applyAll (before ++ op :: mid)).Compiles op') ∧
      (empty.applyAll before).Unchanged (empty.applyAll ops) := by
  induction ops using List.reverseRecOn with
  | nil => exact absurd h Bool.false_ne_true
  | append_singleton ops op ih =>
    rw [applyAll_concat] at h ⊢
    by_cases hop : (empty.applyAll ops).Compiles op
    · have hunchanged : (empty.applyAll ops).Unchanged ((empty.applyAll ops).apply op) := by
        rcases apply_of_compiled h with ⟨_, _, hunchanged⟩ | ⟨_, hsame⟩
        · exact hunchanged
        · exact hsame.unchanged
      exact ⟨ops, op, [], rfl, hop, by simp, hunchanged⟩
    · rcases apply_of_compiled h with ⟨hcompile, hok, _⟩ | ⟨hbefore, hsame⟩
      · exact absurd ⟨hcompile, hok⟩ hop
      · obtain ⟨before, first, after, rfl, hfirst, hlast, hunchanged⟩ := ih hbefore
        refine ⟨before, first, after ++ [op], by simp, hfirst, ?_, hunchanged.trans hsame.unchanged⟩
        intro mid op' later hsplit
        rcases List.eq_nil_or_concat' later with rfl | ⟨later, op'', rfl⟩
        · obtain ⟨rfl, hlastOp⟩ := List.append_inj' hsplit rfl
          obtain rfl := List.singleton_inj.mp hlastOp
          exact hop
        · refine hlast mid op' later ?_
          rw [← List.cons_append, ← List.append_assoc] at hsplit
          exact (List.append_inj' hsplit rfl).1

/-- Whatever operations have made of a ship: one more that leaves it marked as compiled changes no
stage, property, edge or element. While the ship is marked, all of these are as they were when it
was last compiled; executing it again and again changes nothing after the first time, and whatever
else is done without compiling it, as long as it stays marked it executes to the same meshes. -/
theorem unchanged_while_compiled (ops : List (Op α)) :
    let a := (empty : Assembly α).applyAll ops
    (∀ op, (a.apply op).compiled = true → a.Unchanged (a.apply op)) ∧
    (a.compiled = true →
      (∃ before op after, ops = before ++ op :: after ∧ (empty.applyAll before).Compiles op ∧
        (∀ mid op' later, after = mid ++ op' :: later →
          ¬ (empty.applyAll (before ++ op :: mid)).Compiles op') ∧
        (empty.applyAll before).Unchanged a) ∧
      (∀ n, a.applyAll (List.replicate (n + 1) .execute) = a.apply .execute) ∧
      ∀ later, (∀ op ∈ later, op ≠ .compile) → (a.applyAll later).compiled = true →
        (a.applyAll later).execute.2 = .ok () ∧
        (a.applyAll later).execute.1.graph.outputs = a.execute.1.graph.outputs) := by
  intro a
  refine ⟨fun op h => ?_, fun hc => ⟨exists_last_compile hc, ?_⟩⟩
  · rcases apply_of_compiled h with ⟨_, _, hunchanged⟩ | ⟨_, hsame⟩
    · exact hunchanged
    · exact hsame.unchanged
  · have hreachable : a.Reachable := ⟨ops, rfl⟩
    have hfresh := hreachable.graph.fresh hc
    obtain ⟨cache, hrun, _⟩ :=
      Graph.exists_run_solves hfresh (Stage.evaluator a.elements)
    refine ⟨applyAll_replicate_execute hc hrun, fun later hlater hlaterCompiled => ?_⟩
    obtain ⟨_, hsame⟩ := sameButMemory_applyAll hlater hlaterCompiled
    rw [hsame.execute_eq hc hrun, execute_of_run hc hrun]
    exact ⟨rfl, rfl⟩

/-- A light is placed, compiled and marked out, and one that does not exist is moved. -/
def strayMove : List (Op Single) :=
  [.addNode .lightFixture, .add (.light default), .compile, .execute, .move .light ⟨9⟩ .zero]

/-- After the stray move the ship is marked still, and as it was when it was compiled; removing what
does not exist changes nothing, and it executes to the same meshes again and again. -/
theorem unchanged_strayMove :
    (empty.applyAll strayMove).compiled = true ∧
    ((empty.applyAll strayMove).apply (.remove .light ⟨9⟩)).compiled = true ∧
    (empty.applyAll strayMove).Unchanged ((empty.applyAll strayMove).apply (.remove .light ⟨9⟩)) ∧
    (∃ before after, strayMove = before ++ .compile :: after ∧
      (empty.applyAll before).Unchanged (empty.applyAll strayMove)) ∧
    (empty.applyAll strayMove).applyAll [.execute, .execute, .execute] =
      (empty.applyAll strayMove).apply .execute ∧
    ((empty.applyAll strayMove).applyAll [.remove .light ⟨9⟩]).execute.1.graph.outputs =
      (empty.applyAll strayMove).execute.1.graph.outputs := by
  have hcompiled : (empty.applyAll strayMove).compiled = true := rfl
  have hstays : ((empty.applyAll strayMove).apply (.remove .light ⟨9⟩)).compiled = true := rfl
  obtain ⟨hstep, hmarked⟩ := unchanged_while_compiled strayMove
  obtain ⟨⟨before, op, after, hsplit, ⟨rfl, _⟩, _, hunchanged⟩, hagain, hlater⟩ :=
    hmarked hcompiled
  have hremove : ∀ op ∈ [Op.remove (α := Single) .light ⟨9⟩], op ≠ .compile :=
    List.forall_mem_singleton.mpr nofun
  exact ⟨hcompiled, hstays, hstep _ hstays, ⟨before, after, hsplit, hunchanged⟩, hagain 2,
    (hlater _ hremove hstays).2⟩

end Assembly

end Shipwright
