import Shipwright.Proofs.Graph.Operation
import Shipwright.Ship.Session

/-!
# Operations on ships

Everything that can be done to a ship under construction and to the session it is
worked on in, as data. A ship that has come about is an empty one with a list of
operations carried out on it. A session begins as a new ship or a saved design;
then its own methods are used, or the ship inside is worked on behind its back.
Either way the graph of the ship is a graph that has come about.
-/

namespace Shipwright

/-- The kinds of element that can be placed on a ship. -/
inductive PartKind where
  | controlPoint
  | hardpoint
  | light
  | room
  | feature
  deriving DecidableEq, Repr

/-- An element of any kind. -/
inductive Part (α : Type) where
  | controlPoint (e : ControlPoint α)
  | hardpoint (e : Hardpoint α)
  | light (e : Light α)
  | room (e : Room α)
  | feature (e : Feature α)

/-- The kinds of element that can be moved about on a ship. -/
inductive MovableKind where
  | controlPoint
  | hardpoint
  | light
  deriving DecidableEq, Repr

namespace Assembly

/-- One thing that can be done to a ship under construction. -/
inductive Op (α : Type) where
  /-- Adds a stage. -/
  | addNode (kind : Stage)
  /-- Inserts or replaces a property of a stage. -/
  | setProperty (id : NodeId) (key value : String)
  /-- Removes a stage and the edges that touch it. -/
  | removeNode (id : NodeId)
  /-- Appends an edge. -/
  | addEdge (e : Edge)
  /-- Removes every copy of an edge. -/
  | removeEdge (e : Edge)
  /-- Replaces the graph by the standard pipeline. -/
  | usePipeline (segments : UInt32)
  /-- Compiles the graph. -/
  | compile
  /-- Executes the graph on the elements. -/
  | execute
  /-- Adds an element under a fresh number. -/
  | add (part : Part α)
  /-- Removes an element. -/
  | remove (kind : PartKind) (id : ElementId)
  /-- Moves an element. -/
  | move (kind : MovableKind) (id : ElementId) (position : Vec3 α)
  /-- Resizes a control point. -/
  | setRadius (id : ElementId) (radius : α)
  /-- Replaces the elements by the defaults of a class. -/
  | generate (seed : UInt64) (className : String) (settings : Settings α)
  /-- Replaces the elements by those of a design. -/
  | importDesign (d : Design α)
  /-- Scales the radii towards a learned width. -/
  | applyProfile (p : LearnedProfile α) (blend : α)
  /-- Records an edit. -/
  | record (e : Edit α)
  /-- Goes on with a copy of the ship. -/
  | clone

variable {α : Type}

/-- The ship with an element of any kind added, and the number of that element. -/
def addPart (a : Assembly α) : Part α → Assembly α × ElementId
  | .controlPoint e => a.add e
  | .hardpoint e => a.add e
  | .light e => a.add e
  | .room e => a.add e
  | .feature e => a.add e

/-- The ship without the element of a kind and number. -/
def removePart (a : Assembly α) (id : ElementId) : PartKind → Assembly α
  | .controlPoint => (a.remove (ControlPoint α) id).1
  | .hardpoint => (a.remove (Hardpoint α) id).1
  | .light => (a.remove (Light α) id).1
  | .room => (a.remove (Room α) id).1
  | .feature => (a.remove (Feature α) id).1

/-- The ship with the element of a kind and number moved. -/
def movePart (a : Assembly α) (id : ElementId) (position : Vec3 α) : MovableKind → Assembly α
  | .controlPoint => (a.move (ControlPoint α) id position).1
  | .hardpoint => (a.move (Hardpoint α) id position).1
  | .light => (a.move (Light α) id position).1

/-- The one ship becomes the other by a change of its elements, which marks the order as stale, or
stays as it is. -/
def Edited (a b : Assembly α) : Prop := b = a ∨ ∃ elements, b = a.withElements elements

section Edited

variable {ε : Type} [Element ε] [Fitting α ε]

/-- Removing an element is a change of the elements or none at all. -/
theorem edited_remove (a : Assembly α) (id : ElementId) : a.Edited (a.remove ε id).1 := by
  unfold remove
  split
  · exact Or.inr ⟨_, rfl⟩
  · exact Or.inl rfl

/-- Changing an element is a change of the elements or none at all. -/
theorem edited_modify (a : Assembly α) (id : ElementId) (f : ε → ε) :
    a.Edited (a.modify id f).1 := by
  unfold modify
  dsimp only
  split
  · exact Or.inr ⟨_, rfl⟩
  · exact Or.inl rfl

/-- Moving an element is a change of the elements or none at all. -/
theorem edited_move [Placed ε α] (a : Assembly α) (id : ElementId) (position : Vec3 α) :
    a.Edited (a.move ε id position).1 :=
  edited_modify (ε := ε) a id (Placed.withPosition · position)

/-- Applying a profile is a change of the elements or none at all. -/
theorem edited_applyProfile [Scalar α] (a : Assembly α) (p : LearnedProfile α) (blend : α) :
    a.Edited (a.applyProfile p blend) := by
  unfold applyProfile
  dsimp only
  split
  · exact Or.inl rfl
  · exact Or.inr ⟨_, rfl⟩

end Edited

variable [Trigonometric α]

/-- The ship after one operation, whatever that answers. -/
def apply (a : Assembly α) : Op α → Assembly α
  | .addNode kind => { a with graph := (a.graph.addNode kind).1 }
  | .setProperty id key value => { a with graph := (a.graph.setProperty id key value).1 }
  | .removeNode id => { a with graph := (a.graph.removeNode id).1 }
  | .addEdge e => { a with graph := a.graph.addEdge e }
  | .removeEdge e => { a with graph := (a.graph.removeEdge e).1 }
  | .usePipeline segments => (a.usePipeline segments).1
  | .compile => a.compile.1
  | .execute => a.execute.1
  | .add part => (a.addPart part).1
  | .remove kind id => a.removePart id kind
  | .move kind id position => a.movePart id position kind
  | .setRadius id radius => (a.setRadius id radius).1
  | .generate seed className settings => a.generate seed className settings
  | .importDesign d => a.importDesign d
  | .applyProfile p blend => a.applyProfile p blend
  | .record e => a.record e
  | .clone => a

/-- The ship after a list of operations. -/
def applyAll (a : Assembly α) (ops : List (Op α)) : Assembly α := ops.foldl apply a

@[simp] theorem applyAll_concat (a : Assembly α) (ops : List (Op α)) (op : Op α) :
    a.applyAll (ops ++ [op]) = (a.applyAll ops).apply op := List.foldl_append

/-- A ship that operations have made of an empty one. -/
def Reachable (a : Assembly α) : Prop := ∃ ops, a = empty.applyAll ops

/-- More operations lead to a reachable ship. -/
theorem Reachable.applyAll {a : Assembly α} (h : a.Reachable) (ops : List (Op α)) :
    (a.applyAll ops).Reachable := by
  obtain ⟨before, rfl⟩ := h
  exact ⟨before ++ ops, by simp [Assembly.applyAll]⟩

/-- What the empty ship has and every operation keeps, every reachable ship has. -/
theorem Reachable.induction {P : Assembly α → Prop} (hempty : P empty)
    (hstep : ∀ a op, P a → P (apply a op)) {a : Assembly α} (h : a.Reachable) : P a := by
  obtain ⟨ops, rfl⟩ := h
  refine List.foldlRecOn ops apply hempty ?_
  intro a ha op _
  exact hstep a op ha

/-- Whether an operation is none of those that change the stages and edges of a ship. -/
def Op.keepsPlan : Op α → Bool
  | .addNode _ | .setProperty .. | .removeNode _ | .addEdge _ | .removeEdge _ | .usePipeline _ =>
    false
  | _ => true

/-- The one ship becomes the other by operations that leave its stages and edges alone. -/
def Becomes (a b : Assembly α) : Prop :=
  ∃ ops : List (Op α), (∀ op ∈ ops, op.keepsPlan = true) ∧ b = a.applyAll ops

/-- A ship becomes itself by no operation. -/
theorem Becomes.refl (a : Assembly α) : a.Becomes a := ⟨[], (fun _ h => nomatch h), rfl⟩

/-- One operation more goes on from what a ship has become. -/
theorem Becomes.apply {a b : Assembly α} (h : a.Becomes b) (op : Op α)
    (hop : op.keepsPlan = true) : a.Becomes (b.apply op) := by
  obtain ⟨ops, hops, rfl⟩ := h
  refine ⟨ops ++ [op], ?_, (a.applyAll_concat ops op).symm⟩
  intro op' hop'
  rcases List.mem_append.mp hop' with hmem | hmem
  · exact hops op' hmem
  · rwa [List.mem_singleton.mp hmem]

/-- A ship becomes what one operation makes of it. -/
theorem becomes_apply (a : Assembly α) (op : Op α) (hop : op.keepsPlan = true) :
    a.Becomes (a.apply op) := (Becomes.refl a).apply op hop

/-- What a reachable ship becomes is reachable. -/
theorem Reachable.of_becomes {a b : Assembly α} (ha : a.Reachable) (h : a.Becomes b) :
    b.Reachable := by
  obtain ⟨ops, _, rfl⟩ := h
  exact ha.applyAll ops

end Assembly

/-- The standard pipeline is a reachable graph. -/
theorem Pipeline.reachable_build {ν : Type} [Inhabited ν] (name : String) (segments : UInt32) :
    (Pipeline.build name segments : Graph Stage ν × Pipeline).1.Reachable := by
  refine List.foldlRecOn _ Graph.addEdge ?_ (fun g hg e _ => hg.apply (.addEdge e))
  exact (Graph.Reachable.empty name : (Graph.empty name : Graph Stage ν).Reachable)
    |>.apply (.addNode .hullSpline)
    |>.apply (.setProperty ⟨1⟩ Stage.segmentsProperty (toString segments.toNat))
    |>.apply (.addNode .turretMount)
    |>.apply (.addNode .lightFixture)
    |>.apply (.addNode .interiorVolume)
    |>.apply (.addNode .visualAttachment)
    |>.apply (.addNode .merge)
    |>.apply (.addNode .merge)
    |>.apply (.addNode .merge)
    |>.apply (.addNode .merge)
    |>.apply (.addNode .output)

namespace Assembly

variable {α : Type} [Trigonometric α]

/-- What an operation on a ship does to the graph: it puts the standard pipeline in its place, or
it is an operation on the graph, which leaves stages and edges alone where that on the ship does
and executes the stages on what is placed on the ship. -/
theorem graph_apply (a : Assembly α) (op : Op α) :
    (∃ segments, op = .usePipeline segments ∧
      (a.apply op).graph = (Pipeline.build graphName segments).1) ∨
    ∃ op' : Graph.Op Stage (Mesh α), (op.keepsPlan = true → op'.keepsPlan = true) ∧
      (∀ evaluate, op' = .execute evaluate → evaluate = Stage.evaluator a.elements) ∧
      (a.apply op).graph = a.graph.apply op' := by
  have hedit : ∀ op : Op α, a.Edited (a.apply op) →
      ∃ op' : Graph.Op Stage (Mesh α), (op.keepsPlan = true → op'.keepsPlan = true) ∧
        (∀ evaluate, op' = .execute evaluate → evaluate = Stage.evaluator a.elements) ∧
        (a.apply op).graph = a.graph.apply op' := by
    rintro op (hkept | ⟨elements, hedited⟩)
    · exact ⟨.clone, fun _ => rfl, nofun, congrArg Assembly.graph hkept⟩
    · exact ⟨.invalidate, fun _ => rfl, nofun, congrArg Assembly.graph hedited⟩
  cases op with
  | usePipeline segments => exact .inl ⟨segments, rfl, rfl⟩
  | addNode kind => exact .inr ⟨.addNode kind, nofun, nofun, rfl⟩
  | setProperty id key value => exact .inr ⟨.setProperty id key value, nofun, nofun, rfl⟩
  | removeNode id => exact .inr ⟨.removeNode id, nofun, nofun, rfl⟩
  | addEdge e => exact .inr ⟨.addEdge e, nofun, nofun, rfl⟩
  | removeEdge e => exact .inr ⟨.removeEdge e, nofun, nofun, rfl⟩
  | compile => exact .inr ⟨.compile, fun _ => rfl, nofun, rfl⟩
  | execute =>
    refine .inr ⟨.execute (Stage.evaluator a.elements), fun _ => rfl, ?_, rfl⟩
    rintro evaluate ⟨⟩
    rfl
  | add part => exact .inr (hedit _ (by cases part <;> exact .inr ⟨_, rfl⟩))
  | remove kind id => exact .inr (hedit _ (by cases kind <;> exact edited_remove a id))
  | move kind id position =>
    exact .inr (hedit _ (by cases kind <;> exact edited_move a id position))
  | setRadius id radius =>
    exact .inr (hedit _ (edited_modify a id fun c : ControlPoint α => { c with radius }))
  | generate seed className settings => exact .inr (hedit _ (.inr ⟨_, rfl⟩))
  | importDesign d => exact .inr (hedit _ (.inr ⟨_, rfl⟩))
  | applyProfile p blend => exact .inr (hedit _ (edited_applyProfile a p blend))
  | record e => exact .inr ⟨.clone, fun _ => rfl, nofun, rfl⟩
  | clone => exact .inr (hedit _ (.inl rfl))

/-- An operation on a ship keeps its graph a reachable one. -/
theorem graph_reachable_apply {a : Assembly α} (h : a.graph.Reachable) (op : Op α) :
    (a.apply op).graph.Reachable := by
  rcases a.graph_apply op with ⟨segments, _, hgraph⟩ | ⟨op', _, _, hgraph⟩ <;> rw [hgraph]
  · exact Pipeline.reachable_build graphName segments
  · exact h.apply op'

/-- The graph of a reachable ship is a reachable graph. -/
theorem Reachable.graph {a : Assembly α} (h : a.Reachable) : a.graph.Reachable :=
  h.induction (P := fun a => a.graph.Reachable) (Graph.Reachable.empty graphName)
    fun _ op ha => graph_reachable_apply ha op

end Assembly

namespace Session

/-- One thing that a session's own methods can do. -/
inductive Op (α : Type) where
  /-- Adds an element under a fresh number. -/
  | add (part : Part α) (now : UInt64)
  /-- Removes an element. -/
  | remove (kind : PartKind) (id : ElementId) (now : UInt64)
  /-- Moves an element. -/
  | move (kind : MovableKind) (id : ElementId) (position : Vec3 α) (now : UInt64)
  /-- Resizes a control point. -/
  | setRadius (id : ElementId) (radius : α) (now : UInt64)
  /-- Brings the hull towards the learned profile of its class. -/
  | applyLearning (library : ProfileLibrary α)
  /-- Renames the ship. -/
  | rename (name : String)
  /-- Marks the session as clean. -/
  | markClean
  /-- Saves the design in a folder. -/
  | saveTo (disk : Disk) (folder : Path)
  /-- Generates the mesh. -/
  | generate
  /-- Goes on with a copy of the session. -/
  | clone

variable {α : Type} [Trigonometric α]

/-- The session with an element of any kind added, and the number of that element. -/
def addPart (s : Session α) (now : UInt64) : Part α → Session α × ElementId
  | .controlPoint e => s.addControlPoint e
  | .hardpoint e => s.addHardpoint e now
  | .light e => s.addLight e now
  | .room e => s.addRoom e
  | .feature e => s.addFeature e

/-- The session without the element of a kind and number, and whether there was one. -/
def removePart (s : Session α) (id : ElementId) (now : UInt64) : PartKind → Session α × Bool
  | .controlPoint => s.removeControlPoint id now
  | .hardpoint => s.removeHardpoint id now
  | .light => s.removeLight id now
  | .room => s.removeRoom id now
  | .feature => s.removeFeature id now

/-- The session with the element of a kind and number moved, and whether there is one. -/
def movePart (s : Session α) (id : ElementId) (position : Vec3 α) (now : UInt64) :
    MovableKind → Session α × Bool
  | .controlPoint => s.moveControlPoint id position now
  | .hardpoint => s.moveHardpoint id position now
  | .light => s.moveLight id position now

/-- A design is opened just if it is valid: as the ship that it says, clean, with its elements on
the standard pipeline. -/
theorem ofDesign_eq_ok_iff {α : Type} {d : Design α} {settings : Settings α} {s : Session α} :
    ofDesign d settings = .ok s ↔ d.isValid = true ∧
      s = { id := d.id
            name := d.name
            className := d.className
            seed := d.seed
            assembly := ((Assembly.empty.importDesign d).usePipeline settings.segments).1
            settings
            dirty := false } := by
  unfold ofDesign Design.validated
  by_cases h : d.isValid = true
  · simp only [h, ite_true, bind, Except.bind, pure, Except.pure, Except.ok.injEq, true_and]
    exact eq_comm
  · simp [h, bind, Except.bind]

/-- The session of a design that is accepted has the settings it was opened with, and the elements
of the design on the standard pipeline. -/
theorem of_ofDesign {α : Type} {d : Design α} {settings : Settings α} {s : Session α}
    (h : ofDesign d settings = .ok s) : s.settings = settings ∧
      s.assembly = ((Assembly.empty.importDesign d).usePipeline settings.segments).1 := by
  obtain ⟨_, rfl⟩ := ofDesign_eq_ok_iff.mp h
  exact ⟨rfl, rfl⟩

/-- Recording an edit does to the ship what operations on the ship do. -/
theorem becomes_recorded (s : Session α) (kind : EditKind) (id : ElementId) (after : Vec3 α)
    (now : UInt64) {r : Assembly α × Option (Vec3 α)} (h : s.assembly.Becomes r.1) :
    s.assembly.Becomes (s.recorded kind id after now r).1.assembly := by
  obtain ⟨a, before⟩ := r
  cases before with
  | none => exact h
  | some before =>
    exact h.apply (.record ⟨kind, s.className, id, before, after, now⟩) rfl

/-- Generating the mesh changes nothing but the graph of the ship. -/
theorem exists_generate_eq_withGraph (s : Session α) :
    ∃ graph, s.generate.1 = { s with assembly := { s.assembly with graph } } := by
  have hcompile : ∃ graph, (if s.assembly.compiled then (s.assembly, .ok ())
      else s.assembly.compile).1 = { s.assembly with graph } := by
    split <;> exact ⟨_, rfl⟩
  unfold generate
  split
  · rename_i h
    rw [h] at hcompile
    obtain ⟨graph, rfl⟩ := hcompile
    exact ⟨graph, rfl⟩
  · rename_i a _ h
    rw [h] at hcompile
    have hexecute : ∃ graph, a.execute.1 = { s.assembly with graph } := by
      obtain ⟨graph, rfl⟩ := hcompile
      exact ⟨_, rfl⟩
    split <;> rename_i h <;> rw [h] at hexecute <;> obtain ⟨graph, rfl⟩ := hexecute <;>
      exact ⟨graph, rfl⟩

/-- Generating the mesh does to the ship what compiling and executing do. -/
theorem becomes_generate (s : Session α) : s.assembly.Becomes s.generate.1.assembly := by
  have hexecute : ∀ {a : Assembly α}, s.assembly.Becomes a → s.assembly.Becomes a.execute.1 :=
    fun h => h.apply .execute rfl
  have hcompile : s.assembly.Becomes s.assembly.compile.1 :=
    s.assembly.becomes_apply .compile rfl
  unfold generate
  by_cases hc : s.assembly.compiled = true
  · have h := hexecute (.refl s.assembly)
    simp only [hc, ite_true]
    rcases hresult : s.assembly.execute with ⟨a, _ | _⟩ <;> rwa [hresult] at h
  · simp only [hc, Bool.false_eq_true, ite_false]
    rcases hresult : s.assembly.compile with ⟨a, _ | _⟩
    · rwa [hresult] at hcompile
    · rw [hresult] at hcompile
      have h := hexecute hcompile
      dsimp only at h ⊢
      rcases hresult : a.execute with ⟨b, _ | _⟩ <;> rwa [hresult] at h

variable [Ron.Codec α]

/-- The session after one of its methods, whatever that answers. -/
def apply (s : Session α) : Op α → Session α
  | .add part now => (s.addPart now part).1
  | .remove kind id now => (s.removePart id now kind).1
  | .move kind id position now => (s.movePart id position now kind).1
  | .setRadius id radius now => (s.setRadius id radius now).1
  | .applyLearning library => (s.applyLearning library).1
  | .rename name => s.rename name
  | .markClean => s.markClean
  | .saveTo disk folder => (s.saveTo disk folder).1
  | .generate => s.generate.1
  | .clone => s

/-- The session after a list of its methods. -/
def applyAll (s : Session α) (ops : List (Op α)) : Session α := ops.foldl apply s

@[simp] theorem applyAll_concat (s : Session α) (ops : List (Op α)) (op : Op α) :
    s.applyAll (ops ++ [op]) = (s.applyAll ops).apply op := List.foldl_append

/-- A session that has come about: as a new ship or from a design, through its own methods, or by
working on its ship directly. -/
inductive Reachable : Session α → Prop
  /-- A new ship. -/
  | newShip (id className : String) (seed : UInt64) (settings : Settings α) :
    Reachable (newShip id className seed settings)
  /-- The ship of a design that is accepted. -/
  | ofDesign {d : Design α} {settings : Settings α} {s : Session α}
    (h : ofDesign d settings = .ok s) : Reachable s
  /-- One of the session's own methods. -/
  | apply {s : Session α} (h : Reachable s) (op : Op α) : Reachable (s.apply op)
  /-- An operation on the ship inside. -/
  | within {s : Session α} (h : Reachable s) (op : Assembly.Op α) :
    Reachable { s with assembly := s.assembly.apply op }
  /-- Another ship put in the place of the one inside. -/
  | replaced {s : Session α} (h : Reachable s) {a : Assembly α} (ha : a.Reachable) :
    Reachable { s with assembly := a }

/-- A session is saved just if its design is saved to its file in the folder; it is clean then. -/
theorem saveTo_eq_ok_iff {α : Type} [Ron.Codec α] {s t : Session α} {disk disk' : Disk}
    {folder path : Path} : s.saveTo disk folder = (t, disk', .ok path) ↔
      s.toDesign.save disk path = (disk', .ok ()) ∧ t = s.markClean ∧
        path = s.toDesign.filePath folder := by
  simp only [saveTo]
  rcases hsave : s.toDesign.save disk (s.toDesign.filePath folder) with ⟨after, e | u⟩
  · simp only [Prod.mk.injEq, reduceCtorEq, and_false, false_iff]
    rintro ⟨hsaved, -, rfl⟩
    cases hsave.symm.trans hsaved
  · simp only [Prod.mk.injEq, Except.ok.injEq]
    constructor
    · rintro ⟨rfl, rfl, rfl⟩
      exact ⟨hsave, rfl, rfl⟩
    · rintro ⟨hsaved, rfl, rfl⟩
      exact ⟨rfl, congrArg Prod.fst (hsave.symm.trans hsaved), rfl⟩

/-- Saving does nothing to a session but mark it as clean at most. -/
theorem fst_saveTo {α : Type} [Ron.Codec α] (s : Session α) (disk : Disk) (folder : Path) :
    (s.saveTo disk folder).1 = s.markClean ∨ (s.saveTo disk folder).1 = s := by
  simp only [saveTo]
  split
  · exact .inl rfl
  · exact .inr rfl

/-- A method of a session does to the ship what operations on the ship do. -/
theorem becomes_apply (s : Session α) (op : Op α) :
    s.assembly.Becomes (s.apply op).assembly := by
  have hadd : ∀ part, s.assembly.Becomes (s.assembly.addPart part).1 := fun part =>
    s.assembly.becomes_apply (.add part) rfl
  have hremove : ∀ kind id, s.assembly.Becomes (s.assembly.removePart id kind) := fun kind id =>
    s.assembly.becomes_apply (.remove kind id) rfl
  have hmove : ∀ kind id position, s.assembly.Becomes (s.assembly.movePart id position kind) :=
    fun kind id position => s.assembly.becomes_apply (.move kind id position) rfl
  cases op with
  | add part now =>
    cases part with
    | controlPoint e => exact hadd (.controlPoint e)
    | hardpoint e => exact s.becomes_recorded _ _ _ _ (hadd (.hardpoint e))
    | light e => exact s.becomes_recorded _ _ _ _ (hadd (.light e))
    | room e => exact hadd (.room e)
    | feature e => exact hadd (.feature e)
  | remove kind id now =>
    cases kind with
    | controlPoint => exact s.becomes_recorded _ _ _ _ (hremove .controlPoint id)
    | hardpoint => exact s.becomes_recorded _ _ _ _ (hremove .hardpoint id)
    | light => exact s.becomes_recorded _ _ _ _ (hremove .light id)
    | room => exact s.becomes_recorded _ _ _ _ (hremove .room id)
    | feature => exact s.becomes_recorded _ _ _ _ (hremove .feature id)
  | move kind id position now =>
    cases kind with
    | controlPoint => exact s.becomes_recorded _ _ _ _ (hmove .controlPoint id position)
    | hardpoint => exact s.becomes_recorded _ _ _ _ (hmove .hardpoint id position)
    | light => exact s.becomes_recorded _ _ _ _ (hmove .light id position)
  | setRadius id radius now =>
    exact s.becomes_recorded _ _ _ _
      (s.assembly.becomes_apply (.setRadius id radius) rfl)
  | applyLearning library =>
    simp only [Session.apply, applyLearning]
    split
    · exact s.assembly.becomes_apply (.applyProfile _ _) rfl
    · exact .refl _
  | rename name => exact .refl _
  | markClean => exact .refl _
  | saveTo disk folder =>
    simp only [Session.apply]
    rcases s.fst_saveTo disk folder with h | h <;> rw [h] <;> exact .refl _
  | generate => exact s.becomes_generate
  | clone => exact .refl _

/-- The ship of a reachable session is a reachable ship. -/
theorem Reachable.assembly {s : Session α} (h : s.Reachable) : s.assembly.Reachable := by
  induction h with
  | newShip id className seed settings =>
    exact ⟨[.generate seed className settings, .usePipeline settings.segments], rfl⟩
  | @ofDesign d settings s h =>
    rw [(of_ofDesign h).2]
    exact ⟨[.importDesign d, .usePipeline settings.segments], rfl⟩
  | @apply s _ op ih => exact ih.of_becomes (s.becomes_apply op)
  | within _ op ih => exact ih.applyAll [op]
  | replaced _ ha _ => exact ha

end Session

end Shipwright
