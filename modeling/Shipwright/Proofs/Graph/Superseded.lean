import Shipwright.Proofs.Graph.Calculator
import Shipwright.Proofs.Graph.Dataflow

/-!
# Edges that another edge supersedes

Where several edges lead into one slot, the last of them that brings a value fills it. So an
edge may go if one that brings a value follows it into the same slot, and nothing changes. That
an edge follows is not enough: if the source of the last one stays silent, the slot keeps what
an earlier edge has brought. Where the last edge into a slot brings a value if any edge does,
the last edges are all that matters; so it is with an evaluator that leaves no declared port
without a value.
-/

namespace Shipwright

/-- The slot an edge leads into. -/
def Edge.slot (e : Edge) : NodeId × PortIndex := (e.toNode, e.toPort)

/-- The edges that no winning edge follows into the same slot. -/
def unsuperseded (wins : Edge → Bool) : List Edge → List Edge
  | [] => []
  | e :: es =>
    if es.any fun later => later.slot = e.slot && wins later then unsuperseded wins es
    else e :: unsuperseded wins es

/-- The last edge into each slot. -/
def lastIntoSlots (es : List Edge) : List Edge := unsuperseded (fun _ => true) es

section Lists

variable {wins : Edge → Bool} {es : List Edge}

/-- The edges that are left stay in their order. -/
theorem unsuperseded_sublist (wins : Edge → Bool) (es : List Edge) :
    (unsuperseded wins es).Sublist es := by
  induction es with
  | nil => exact .slnil
  | cons e es ih =>
    rw [unsuperseded]
    split
    · exact ih.cons e
    · exact ih.cons_cons e

/-- Among the edges of some kind the same one is the last with and without the superseded edges, if
every superseded edge of the kind has another one of it behind it. -/
theorem getLast?_filter_unsuperseded {p : Edge → Bool}
    (h : ∀ e after, e :: after <:+ es → p e = true →
      (∃ later ∈ after, later.slot = e.slot ∧ wins later = true) →
      ∃ later ∈ after, p later = true) :
    ((unsuperseded wins es).filter p).getLast? = (es.filter p).getLast? := by
  induction es with
  | nil => rfl
  | cons e es ih =>
    have ih := ih fun e' after hsuffix => h e' after (hsuffix.trans (List.suffix_cons e es))
    rw [unsuperseded]
    split
    · rename_i hsuperseded
      rw [ih, List.filter_cons]
      split
      · rename_i hp
        obtain ⟨later, hlater, hp⟩ := h e es List.suffix_rfl hp (by simpa using hsuperseded)
        have hne : es.filter p ≠ [] := List.ne_nil_of_mem (List.mem_filter.mpr ⟨hlater, hp⟩)
        rw [List.getLast?_cons, List.getLast?_eq_some_getLast hne, Option.getD_some]
      · rfl
    · rw [List.filter_cons, List.filter_cons]
      split
      · rw [List.getLast?_cons, List.getLast?_cons, ih]
      · exact ih

/-- The last edge into a slot comes behind every edge behind which some edge leads into the slot. -/
theorem mem_of_mem_lastIntoSlots {e last : Edge} {after : List Edge}
    (hlast : last ∈ lastIntoSlots es) (hsuffix : e :: after <:+ es)
    (hafter : ∃ later ∈ after, later.slot = last.slot) : last ∈ after := by
  induction es with
  | nil => contradiction
  | cons x es ih =>
    have hcases : last ∈ lastIntoSlots es ∨ last = x ∧ ∀ later ∈ es, later.slot ≠ last.slot := by
      rw [lastIntoSlots, unsuperseded] at hlast
      split at hlast
      · exact .inl hlast
      · rename_i hno
        rcases List.mem_cons.mp hlast with rfl | hlast
        · exact .inr ⟨rfl, by simpa using hno⟩
        · exact .inl hlast
    obtain ⟨later, hlater, hslot⟩ := hafter
    rcases List.suffix_cons_iff.mp hsuffix with heq | hsuffix
    · obtain ⟨rfl, rfl⟩ := List.cons.inj heq
      rcases hcases with hrest | ⟨-, hno⟩
      · exact (unsuperseded_sublist _ _).subset hrest
      · exact absurd hslot (hno later hlater)
    · rcases hcases with hrest | ⟨-, hno⟩
      · exact ih hrest hsuffix
      · exact absurd hslot (hno later (hsuffix.subset (.tail _ hlater)))

end Lists

namespace Graph

variable {κ ν : Type}

/-- The graph with other edges. -/
def withEdges (g : Graph κ ν) (edges : List Edge) : Graph κ ν := { g with edges, compiled := false }

/-- Whether the source of an edge has produced a value. -/
def carries (cache : OutputCache ν) (e : Edge) : Bool := (carried cache e).isSome

variable [Inhabited ν]

/-- Without the superseded edges the same arrives in a slot, if every one of them that brings a
value is followed into its slot by another one that does. -/
theorem lastCarried_slotEdges_unsuperseded {g : Graph κ ν} {cache : OutputCache ν}
    {wins : Edge → Bool}
    (h : ∀ e after, e :: after <:+ g.edges → carries cache e = true →
      (∃ later ∈ after, later.slot = e.slot ∧ wins later = true) →
      ∃ later ∈ after, later.slot = e.slot ∧ carries cache later = true)
    (id : NodeId) (slot : Nat) :
    lastCarried cache ((g.withEdges (unsuperseded wins g.edges)).slotEdges id slot) =
      lastCarried cache (g.slotEdges id slot) := by
  unfold lastCarried slotEdges withEdges
  rw [List.filter_filter, List.filter_filter, getLast?_filter_unsuperseded]
  intro e after hsuffix he hlater
  rw [Bool.and_eq_true, decide_eq_true_iff] at he
  obtain ⟨later, hmem, hslot, hcarries⟩ := h e after hsuffix he.1 hlater
  obtain ⟨hto, hport⟩ := Prod.mk.inj hslot
  refine ⟨later, hmem, ?_⟩
  rw [Bool.and_eq_true, decide_eq_true_iff, hto, hport]
  exact ⟨hcarries, he.2⟩

variable [NodeFamily κ]

/-- A node yields the same with other edges if the same arrives in its slots. -/
theorem yielded_withEdges {g : Graph κ ν} {edges : List Edge} {cache : OutputCache ν} {id : NodeId}
    (h : ∀ slot, lastCarried cache ((g.withEdges edges).slotEdges id slot) =
      lastCarried cache (g.slotEdges id slot))
    (evaluate : Evaluator κ ν) (port : PortIndex) :
    (g.withEdges edges).yielded evaluate cache id port = g.yielded evaluate cache id port := by
  change (g.node? id).bind _ = (g.node? id).bind _
  cases hn : g.node? id with
  | none => rfl
  | some n =>
    obtain ⟨_, rfl⟩ := node?_eq_some_iff.mp hn
    simp only [Option.bind_some, inputsOf_eq_map, h]

/-- Compiling a graph succeeds, and so does executing it then, and these are the cached values. -/
def Computes (g : Graph κ ν) (evaluate : Evaluator κ ν) (outputs : OutputCache ν) : Prop :=
  g.compile.2 = .ok () ∧ (g.compile.1.execute evaluate).2 = .ok () ∧
    ∀ id port, (g.compile.1.execute evaluate).1.output? id port = outputs.get? (id, port)

/-- A graph that has a schedule computes what solves its equations. -/
theorem exists_computes_solves {g : Graph κ ν} {order : List NodeId} (h : g.schedule = .ok order)
    (evaluate : Evaluator κ ν) :
    ∃ outputs, g.Computes evaluate outputs ∧ g.Solves evaluate outputs := by
  have hfresh : ({ g with order, compiled := true } : Graph κ ν).Fresh := fun _ => h
  obtain ⟨outputs, hexecute, hsolves⟩ := hfresh.exists_execute_solves rfl evaluate
  refine ⟨outputs, ?_, hsolves⟩
  rw [Computes, compile_of_schedule h, hexecute]
  exact ⟨rfl, rfl, fun _ _ => rfl⟩

/-- With some of its edges a graph that has a schedule computes the same as with all of them, if the
same arrives in the slots. -/
theorem Solves.computes_withEdges {g : Graph κ ν} {evaluate : Evaluator κ ν}
    {outputs : OutputCache ν} (h : g.Solves evaluate outputs) {order : List NodeId}
    (hschedule : g.schedule = .ok order) {edges : List Edge} (hsub : edges ⊆ g.edges)
    (hslots : ∀ id slot, lastCarried outputs ((g.withEdges edges).slotEdges id slot) =
      lastCarried outputs (g.slotEdges id slot)) :
    (g.withEdges edges).Computes evaluate outputs := by
  have htop := topological_of_schedule hschedule
  have hresolves := (schedule_eq_ok_iff.mp hschedule).1
  have hschedule' : (g.withEdges edges).schedule = .ok (Scheduling.final g.nodeIds edges).order :=
    schedule_eq_ok_iff.mpr
      ⟨fun e he => hresolves e (hsub he), (htop.mono hsub).acyclic, rfl⟩
  obtain ⟨outputs', hcomputes, hsolves⟩ := exists_computes_solves hschedule' evaluate
  refine ⟨hcomputes.1, hcomputes.2.1, fun id port => (hcomputes.2.2 id port).trans ?_⟩
  refine (h.get?_eq hsolves htop (P := fun _ => True) (fun _ _ _ => trivial) ?_ trivial port).symm
  intro id _ hcarried port
  calc g.yielded evaluate outputs id port
      = (g.withEdges edges).yielded evaluate outputs id port :=
        (yielded_withEdges (hslots id) evaluate port).symm
    _ = (g.withEdges edges).yielded evaluate outputs' id port :=
        yielded_congr evaluate (fun e he => hcarried e (hsub he)) port

/-- A graph that compiles computes the same without the edges that are followed into their slots by
an edge that brings a value. Of the edges into each slot the last one is enough, if it brings a
value wherever any of them does. -/
theorem computes_without_superseded {g : Graph κ ν} (h : g.compile.2 = .ok ())
    (evaluate : Evaluator κ ν) :
    ∃ outputs, g.Computes evaluate outputs ∧
      (g.withEdges (unsuperseded (carries outputs) g.edges)).Computes evaluate outputs ∧
      ((∀ e ∈ g.edges, carries outputs e = true →
          ∃ last ∈ lastIntoSlots g.edges, last.slot = e.slot ∧ carries outputs last = true) →
        (g.withEdges (lastIntoSlots g.edges)).Computes evaluate outputs) := by
  obtain ⟨order, hschedule⟩ := compile_eq_ok_iff.mp h
  obtain ⟨outputs, hcomputes, hsolves⟩ := exists_computes_solves hschedule evaluate
  refine ⟨outputs, hcomputes, ?_, fun hlast => ?_⟩
  · exact hsolves.computes_withEdges hschedule (unsuperseded_sublist _ _).subset
      (lastCarried_slotEdges_unsuperseded fun _ _ _ _ hlater => hlater)
  · refine hsolves.computes_withEdges hschedule (unsuperseded_sublist _ _).subset
      (lastCarried_slotEdges_unsuperseded ?_)
    rintro e after hsuffix he ⟨later, hlater, hslot, -⟩
    obtain ⟨last, hmem, hsame, hcarries⟩ := hlast e (hsuffix.subset (.head _)) he
    have hafter := mem_of_mem_lastIntoSlots hmem hsuffix ⟨later, hlater, hslot.trans hsame.symm⟩
    exact ⟨last, hafter, hsame, hcarries⟩

/-- A constant and a silent node do not matter before the constant that leads into their slot
last. -/
theorem overruled_computes_without_superseded :
    (built "Overruled" Calc.overruled).compile.2 = .ok () ∧
    ∃ outputs, (built "Overruled" Calc.overruled).Computes Calc.evaluate outputs ∧
      ((built "Overruled" Calc.overruled).withEdges
        (unsuperseded (carries outputs) (built "Overruled" Calc.overruled).edges)).Computes
          Calc.evaluate outputs ∧
      ((built "Overruled" Calc.overruled).withEdges
        [⟨⟨4⟩, 0, ⟨3⟩, 0⟩, ⟨⟨1⟩, 0, ⟨3⟩, 1⟩]).Computes Calc.evaluate outputs := by
  have hcompiles : (built "Overruled" Calc.overruled).compile.2 = .ok () := rfl
  obtain ⟨outputs, hcomputes, hsilent, hlast⟩ :=
    computes_without_superseded hcompiles Calc.evaluate
  have hfirst : carries outputs ⟨⟨4⟩, 0, ⟨3⟩, 0⟩ = true :=
    congrArg Option.isSome (hcomputes.2.2 ⟨4⟩ 0).symm
  have hsecond : carries outputs ⟨⟨1⟩, 0, ⟨3⟩, 1⟩ = true :=
    congrArg Option.isSome (hcomputes.2.2 ⟨1⟩ 0).symm
  have hslots : ∀ e ∈ (built "Overruled" Calc.overruled).edges,
      e.slot = (⟨3⟩, 0) ∨ e.slot = (⟨3⟩, 1) := by decide
  refine ⟨hcompiles, outputs, hcomputes, hsilent, hlast fun e he _ => ?_⟩
  rcases hslots e he with hslot | hslot
  · exact ⟨⟨⟨4⟩, 0, ⟨3⟩, 0⟩, by decide, hslot.symm, hfirst⟩
  · exact ⟨⟨⟨1⟩, 0, ⟨3⟩, 1⟩, by decide, hslot.symm, hsecond⟩

/-- A silent last edge does not clear its slot: the sum still takes what the edge before it brings,
and loses it together with that edge. -/
theorem superseded_edge_matters_before_silence :
    (built "Twice" Calc.twice).compile.2 = .ok () ∧
    lastIntoSlots (built "Twice" Calc.twice).edges = [⟨⟨1⟩, 0, ⟨3⟩, 0⟩, ⟨⟨2⟩, 0, ⟨3⟩, 1⟩] ∧
    ((built "Twice" Calc.twice).compile.1.execute Calc.evaluate).1.output? ⟨3⟩ 0 = some 2 ∧
    (((built "Twice" Calc.twice).withEdges
      (lastIntoSlots (built "Twice" Calc.twice).edges)).compile.1.execute Calc.evaluate).1.output?
        ⟨3⟩ 0 = some 1 :=
  ⟨rfl, rfl, rfl, rfl⟩

end Graph

/-- Every port that a node's kind declares gets a value, whatever the inputs are. -/
def Evaluator.Total {κ ν : Type} [NodeFamily κ] (evaluate : Evaluator κ ν) : Prop :=
  ∀ n inputs port, port.toNat < (NodeFamily.outputs n.kind).length →
    ((evaluate n inputs).get? port).isSome

namespace Graph

variable {κ ν : Type} [NodeFamily κ] [Inhabited ν]

/-- With a total evaluator every edge that resolves brings a value. -/
theorem Solves.carries {g : Graph κ ν} {evaluate : Evaluator κ ν} {outputs : OutputCache ν}
    (h : g.Solves evaluate outputs) (htotal : evaluate.Total) {e : Edge} (he : g.Resolves e) :
    Graph.carries outputs e = true := by
  obtain ⟨source, hs, _, _, hid, _, _, _, hport, _⟩ := he
  have hnode : g.node? e.fromNode = some source := node?_eq_some_iff.mpr ⟨hs, hid⟩
  rw [Graph.carries, carried, h, yielded, hnode, Option.bind_some]
  exact htotal source _ _ (List.getElem?_eq_some_iff.mp hport).1

/-- With a total evaluator only the last edge into each slot matters. -/
theorem computes_lastIntoSlots {g : Graph κ ν} (h : g.compile.2 = .ok ()) {evaluate : Evaluator κ ν}
    (htotal : evaluate.Total) :
    ∃ outputs, g.Computes evaluate outputs ∧
      (g.withEdges (lastIntoSlots g.edges)).Computes evaluate outputs := by
  obtain ⟨order, hschedule⟩ := compile_eq_ok_iff.mp h
  obtain ⟨outputs, hcomputes, hsolves⟩ := exists_computes_solves hschedule evaluate
  have hresolves := (schedule_eq_ok_iff.mp hschedule).1
  refine ⟨outputs, hcomputes, ?_⟩
  refine hsolves.computes_withEdges hschedule (unsuperseded_sublist _ _).subset
    (lastCarried_slotEdges_unsuperseded ?_)
  rintro e after hsuffix - ⟨later, hlater, hslot, -⟩
  have hmem : later ∈ g.edges := hsuffix.subset (.tail _ hlater)
  exact ⟨later, hlater, hslot, hsolves.carries htotal (hresolves later hmem)⟩

end Graph

end Shipwright
