import Shipwright.Proofs.Ship.Generation

/-!
# A reopened ship is the ship

What a session puts into a design is opened again under fresh numbers, which run from
one on through all kinds. Nothing but the numbers is different: no stage looks at the
number of an element, and the pipeline is laid anew with the same ring resolution. So
the reopened session generates the same mesh as the one it was taken from, however that
one has come about.
-/

namespace Shipwright

variable {α : Type}

/-- Elements for which only the last number that they are given counts. -/
class LawfulElement (ε : Type) [Element ε] : Prop where
  /-- Of two numbers the second remains. -/
  withId_withId : ∀ (e : ε) i j, Element.withId (Element.withId e i) j = Element.withId e j := by
    intros; rfl

instance : LawfulElement (ControlPoint α) where

instance : LawfulElement (Hardpoint α) where

instance : LawfulElement (Light α) where

instance : LawfulElement (Room α) where

instance : LawfulElement (Feature α) where

/-- An element without its number. -/
def Element.bare {ε : Type} [Element ε] (e : ε) : ε := withId e default

namespace Store

variable {ε : Type} [Element ε]

/-- The elements of a store without their numbers. -/
def bare (s : Store ε) : Store ε := ⟨s.items.map Element.bare⟩

/-- Stamping changes nothing but numbers. -/
theorem map_bare_stamp [LawfulElement ε] (ids : IdSource) (es : List ε) :
    (stamp ids es).1.map Element.bare = es.map Element.bare := by
  induction es generalizing ids with
  | nil => rfl
  | cons e es ih =>
    have hbare : ∀ id, Element.bare (Element.withId e id) = Element.bare e := fun id =>
      LawfulElement.withId_withId e id default
    rw [stamp, List.map_cons, List.map_cons, hbare]
    exact congrArg (Element.bare e :: ·) (ih _)

/-- Stamping takes the source past so many numbers. -/
theorem stamp_source (k : Nat) (es : List ε) :
    (stamp ⟨UInt32.ofNat k⟩ es).2 = ⟨UInt32.ofNat (k + es.length)⟩ := by
  induction es generalizing k with
  | nil => rfl
  | cons e es ih =>
    rw [stamp, IdSource.allocate, ← UInt32.ofNat_one, ← UInt32.ofNat_add, List.length_cons,
      Nat.add_comm es.length 1, ← Nat.add_assoc]
    exact ih (k + 1)

/-- Stamped elements have the numbers from the next one on. -/
theorem map_id_stamp (k : Nat) (es : List ε) :
    (stamp ⟨UInt32.ofNat k⟩ es).1.map Element.id =
      (List.range' k es.length).map fun i => ⟨UInt32.ofNat i⟩ := by
  induction es generalizing k with
  | nil => rfl
  | cons e es ih =>
    rw [stamp, IdSource.allocate, ← UInt32.ofNat_one, ← UInt32.ofNat_add, List.map_cons,
      Element.id_withId, List.length_cons, List.range'_succ, List.map_cons]
    exact congrArg _ (ih (k + 1))

end Store

namespace Elements

/-- The elements of a ship without their numbers. -/
def bare (s : Elements α) : Elements α :=
  ⟨s.controlPoints.bare, s.hardpoints.bare, s.lights.bare, s.rooms.bare, s.features.bare, .initial⟩

/-- There are as many elements without their numbers. -/
theorem count_bare (s : Elements α) : s.bare.count = s.count := by
  simp only [count, bare, Store.bare, Store.size, List.length_map]

/-- The numbers of all elements: control points, hardpoints, lights, rooms and features, each kind
in the order of its store. -/
def allIds (s : Elements α) : List ElementId :=
  s.controlPoints.items.map Element.id ++ s.hardpoints.items.map Element.id ++
    s.lights.items.map Element.id ++ s.rooms.items.map Element.id ++ s.features.items.map Element.id

end Elements

/-- A hull does not depend on the numbers of its control points. -/
theorem Mesh.loft_bare [Trigonometric α] (points : List (ControlPoint α)) (segments : Nat) :
    loft (points.map Element.bare) segments = loft points segments := by
  have hring : ∀ p : ControlPoint α, Loft.ring segments (Element.bare p) = Loft.ring segments p :=
    fun _ => rfl
  simp only [loft, List.head?_map, List.getLast?_map, List.length_map, List.flatMap_map, hring]
  cases points.head? with
  | none => rfl
  | some first => cases points.getLast? <;> rfl

/-- No stage looks at the numbers of elements. -/
theorem Stage.mesh_bare [Trigonometric α] (s : Elements α) (n : Node Stage)
    (inputs : List (Mesh α)) : Stage.mesh s.bare n inputs = Stage.mesh s n inputs := by
  have hmap : ∀ {ε : Type} [Element ε] {f : ε → Mesh α}, (∀ e, f (Element.bare e) = f e) →
      ∀ t : Store ε, Mesh.join (t.bare.items.map f) = .join (t.items.map f) := by
    intro ε _ f hf t
    simp only [Store.bare, List.map_map, Function.comp_def, hf]
  unfold mesh
  cases n.kind with
  | hullSpline => exact Mesh.loft_bare s.controlPoints.items (segments n)
  | turretMount => exact hmap (fun _ => rfl) s.hardpoints
  | lightFixture => exact hmap (fun _ => rfl) s.lights
  | interiorVolume => exact hmap (fun _ => rfl) s.rooms
  | visualAttachment => exact hmap (fun _ => rfl) s.features
  | merge => rfl
  | output => rfl

/-- Stages compute the same over elements that differ in their numbers only. -/
theorem Stage.evaluator_eq_of_bare_eq [Trigonometric α] {s t : Elements α} (h : t.bare = s.bare) :
    Stage.evaluator t = Stage.evaluator s := by
  funext n inputs
  rw [Stage.evaluator, Stage.evaluator, ← Stage.mesh_bare t, h, Stage.mesh_bare]

namespace Assembly

/-- An empty ship has the elements of a design that it imports, but for their numbers. -/
theorem bare_importDesign (d : Design α) :
    (empty.importDesign d).elements.bare =
      (⟨⟨d.controlPoints⟩, ⟨d.hardpoints⟩, ⟨d.lights⟩, ⟨d.rooms⟩, ⟨d.features⟩, .initial⟩ :
        Elements α).bare := by
  simp only [importDesign, withElements, Elements.restock, Fitting.withStore, Elements.bare,
    Store.bare, Store.map_bare_stamp]

/-- An empty ship numbers the elements of a design that it imports from one on. -/
theorem allIds_importDesign (d : Design α) :
    (empty.importDesign d).elements.allIds =
      (List.range' 1 (empty.importDesign d).elements.count).map fun k => ⟨UInt32.ofNat k⟩ := by
  have hstart : (empty : Assembly α).elements.ids = ⟨UInt32.ofNat 1⟩ := rfl
  simp only [importDesign, withElements, Elements.restock, Fitting.withStore, Elements.allIds,
    Elements.count, Store.size, Store.length_stamp, hstart, Store.stamp_source, Store.map_id_stamp]
  simp only [← List.map_append, Nat.add_assoc, List.range'_append_1]

end Assembly

namespace Graph

variable {κ ν : Type} [NodeFamily κ] {g g' : Graph κ ν}

/-- The schedule depends on nodes and edges alone. -/
theorem schedule_congr (hnodes : g'.nodes = g.nodes) (hedges : g'.edges = g.edges) :
    g'.schedule = g.schedule := by
  cases g
  cases g'
  subst hnodes hedges
  rfl

/-- What a run over an order yields depends on nodes and edges alone. -/
theorem run_congr [Inhabited ν] (hnodes : g'.nodes = g.nodes) (hedges : g'.edges = g.edges)
    (order : List NodeId) (evaluate : Evaluator κ ν) :
    Graph.run { g' with order } evaluate = Graph.run { g with order } evaluate := by
  cases g
  cases g'
  subst hnodes hedges
  rfl

end Graph

namespace Session

variable [Trigonometric α]

/-- Over a graph with a schedule a session generates what its run yields for the first output. -/
theorem generate_of_run {s : Session α} {order : List NodeId} {cache : OutputCache (Mesh α)}
    (hfresh : s.assembly.graph.Fresh) (hschedule : s.assembly.graph.schedule = .ok order)
    (hrun : Graph.run { s.assembly.graph with order } (Stage.evaluator s.assembly.elements) =
      .ok cache) :
    s.generate.2 = .ok (((s.assembly.graph.nodes.find? (·.kind = .output)).bind fun n =>
      cache.get? (n.id, 0)).getD .empty) := by
  have hrun : Graph.run { s.assembly.graph with order, compiled := true }
      (Stage.evaluator s.assembly.elements) = .ok cache := hrun
  simp only [generate_eq_generateAfresh hfresh, generateAfresh, Assembly.compile,
    Graph.compile_of_schedule hschedule, Assembly.execute, Graph.execute, ite_true, hrun]
  rfl

/-- Sessions whose ships have the same stages and edges, and elements that the stages cannot tell
apart, generate the same mesh. -/
theorem exists_generate_eq {s t : Session α} {segments : UInt32}
    (hs : s.assembly.Reachable) (ht : t.assembly.Reachable)
    (hslaid : Pipeline.Laid segments s.assembly.graph)
    (htlaid : Pipeline.Laid segments t.assembly.graph)
    (hbare : t.assembly.elements.bare = s.assembly.elements.bare) :
    ∃ mesh, s.generate.2 = .ok mesh ∧ t.generate.2 = .ok mesh := by
  have hnodes : t.assembly.graph.nodes = s.assembly.graph.nodes :=
    htlaid.nodes.trans hslaid.nodes.symm
  have hedges : t.assembly.graph.edges = s.assembly.graph.edges :=
    htlaid.edges.trans hslaid.edges.symm
  obtain ⟨order, hschedule⟩ := hslaid.exists_schedule
  obtain ⟨cache, hrun, _⟩ := Graph.exists_run_solves
    (g := { s.assembly.graph with order }) hschedule (Stage.evaluator s.assembly.elements)
  have hrun' : Graph.run { t.assembly.graph with order } (Stage.evaluator t.assembly.elements) =
      .ok cache := by
    rw [Stage.evaluator_eq_of_bare_eq hbare, ← hrun]
    exact Graph.run_congr hnodes hedges order _
  refine ⟨_, generate_of_run hs.graph.fresh hschedule hrun, ?_⟩
  rw [generate_of_run ht.graph.fresh ((Graph.schedule_congr hnodes hedges).trans hschedule) hrun',
    hnodes]

/-- Generating the mesh leaves who the ship is alone. -/
theorem identity_generate (s : Session α) :
    s.generate.1.id = s.id ∧ s.generate.1.settings = s.settings := by
  obtain ⟨graph, h⟩ := s.exists_generate_eq_withGraph
  rw [h]
  exact ⟨rfl, rfl⟩

/-- Recording an edit leaves who the ship is alone. -/
theorem identity_recorded {α : Type} (s : Session α) (kind : EditKind) (id : ElementId)
    (new : Vec3 α) (now : UInt64) (r : Assembly α × Option (Vec3 α)) :
    (s.recorded kind id new now r).1.id = s.id ∧
      (s.recorded kind id new now r).1.settings = s.settings := by
  obtain ⟨a, old⟩ := r
  cases old <;> exact ⟨rfl, rfl⟩

variable [Ron.Codec α]

/-- No method of a session changes the number or the settings of the ship. -/
theorem identity_apply (s : Session α) (op : Op α) :
    (s.apply op).id = s.id ∧ (s.apply op).settings = s.settings := by
  cases op with
  | add part now => cases part <;> exact ⟨rfl, rfl⟩
  | remove kind id now => cases kind <;> exact s.identity_recorded ..
  | move kind id position now => cases kind <;> exact s.identity_recorded ..
  | setRadius id radius now => exact s.identity_recorded ..
  | applyLearning library =>
    simp only [Session.apply, applyLearning]
    split <;> exact ⟨rfl, rfl⟩
  | rename name => exact ⟨rfl, rfl⟩
  | markClean => exact ⟨rfl, rfl⟩
  | saveTo disk folder =>
    simp only [Session.apply]
    rcases s.fst_saveTo disk folder with h | h <;> rw [h] <;> exact ⟨rfl, rfl⟩
  | generate => exact s.identity_generate
  | clone => exact ⟨rfl, rfl⟩

/-- No run of methods changes the number or the settings of the ship. -/
theorem identity_applyAll (s : Session α) (ops : List (Op α)) :
    (s.applyAll ops).id = s.id ∧ (s.applyAll ops).settings = s.settings := by
  refine List.foldlRecOn (motive := fun t => t.id = s.id ∧ t.settings = s.settings) ops apply
    ⟨rfl, rfl⟩ ?_
  rintro t ⟨hid, hsettings⟩ op _
  obtain ⟨hid', hsettings'⟩ := t.identity_apply op
  exact ⟨hid'.trans hid, hsettings'.trans hsettings⟩

/-- However a session was begun, if only a new ship has a number at all, and whatever its methods
have done since: as long as there is a control point its design can be opened, with the same
settings, as a session that is clean and the same ship, with the same elements but for their
numbers. These run from one on through all kinds in order. Both sessions generate the same mesh,
which is made of the parts of the ship if their vertices can be numbered. -/
theorem reopened_like_original {s : Session α} (h : s.Opened)
    (hnew : ∀ id className seed settings, s = newShip id className seed settings → id ≠ "")
    (ops : List (Op α)) (hpoints : (s.applyAll ops).assembly.elements.controlPoints.items ≠ []) :
    let u := s.applyAll ops
    ∃ t, ofDesign u.toDesign u.settings = .ok t ∧ t.id = u.id ∧ t.name = u.name ∧
      t.className = u.className ∧ t.seed = u.seed ∧ t.dirty = false ∧
      t.assembly.elements.bare = u.assembly.elements.bare ∧
      t.assembly.elements.allIds = (List.range' 1 u.assembly.elements.count).map
        (fun k => ⟨UInt32.ofNat k⟩) ∧
      ∃ mesh, u.generate.2 = .ok mesh ∧ t.generate.2 = .ok mesh ∧
        let parts := u.assembly.elements.parts (Pipeline.resolution u.settings.segments)
        (Mesh.vertexTotal parts < 2 ^ 32 → mesh = .join parts) := by
  intro u
  obtain ⟨hid, hsettings⟩ := s.identity_applyAll ops
  have hnamed : s.id ≠ "" := by
    cases h with
    | newShip id className seed settings => exact hnew id className seed settings rfl
    | ofDesign hopen =>
      obtain ⟨hvalid, rfl⟩ := ofDesign_eq_ok_iff.mp hopen
      exact (Design.isValid_iff.mp hvalid).2
  have hvalid : u.toDesign.isValid = true :=
    Design.isValid_iff.mpr ⟨hpoints, fun hempty => hnamed (hid.symm.trans hempty)⟩
  let t : Session α := ⟨u.id, u.name, u.className, u.seed,
    ((Assembly.empty.importDesign u.toDesign).usePipeline u.settings.segments).1, u.settings, false⟩
  have hopen : ofDesign u.toDesign u.settings = .ok t := ofDesign_eq_ok_iff.mpr ⟨hvalid, rfl⟩
  have hbare : t.assembly.elements.bare = u.assembly.elements.bare :=
    Assembly.bare_importDesign u.toDesign
  have hcount : t.assembly.elements.count = u.assembly.elements.count := by
    rw [← Elements.count_bare, hbare, Elements.count_bare]
  have hids := Assembly.allIds_importDesign u.toDesign
  refine ⟨t, hopen, rfl, rfl, rfl, rfl, rfl, hbare, hcount ▸ hids, ?_⟩
  have htlaid : Pipeline.Laid u.settings.segments t.assembly.graph := (Opened.ofDesign hopen).laid
  rw [hsettings] at htlaid
  have hreachable : u.assembly.Reachable := (h.reachable_applyAll ops).assembly
  obtain ⟨mesh, hmesh, hmesh'⟩ := exists_generate_eq hreachable
    ((Opened.ofDesign hopen).reachable_applyAll []).assembly (h.laid_applyAll ops) htlaid hbare
  obtain ⟨joined, hjoined, hparts⟩ := exists_generate_eq_ok hreachable (h.laid_applyAll ops)
  obtain rfl : mesh = joined := Except.ok.inj (hmesh.symm.trans hjoined)
  rw [hsettings]
  exact ⟨mesh, hmesh, hmesh', hparts⟩

/-- The session on one element of each kind, after a light was added and the hardpoint removed, is
reopened with the numbers one to six and generates the same mesh, made of its parts. -/
theorem reopened_oneOfEach :
    ∃ s : Session Single, ofDesign oneOfEach .standard = .ok s ∧
      let u := s.applyAll [.add (.light default) 5, .remove .hardpoint ⟨3⟩ 6]
      u.assembly.elements.allIds = [⟨1⟩, ⟨2⟩, ⟨4⟩, ⟨7⟩, ⟨5⟩, ⟨6⟩] ∧
      ∃ t, ofDesign u.toDesign u.settings = .ok t ∧ t.id = "one-of-each" ∧ t.dirty = false ∧
        t.assembly.elements.bare = u.assembly.elements.bare ∧
        t.assembly.elements.allIds = [⟨1⟩, ⟨2⟩, ⟨3⟩, ⟨4⟩, ⟨5⟩, ⟨6⟩] ∧
        ∃ mesh, u.generate.2 = .ok mesh ∧ t.generate.2 = .ok mesh ∧
          mesh = .join (u.assembly.elements.parts 8) := by
  let ops : List (Op Single) := [.add (.light default) 5, .remove .hardpoint ⟨3⟩ 6]
  have hopen : ∃ s : Session Single, ofDesign oneOfEach .standard = .ok s ∧ s.id = "one-of-each" ∧
      (s.applyAll ops).id = "one-of-each" ∧ (s.applyAll ops).settings.segments = 8 ∧
      (s.applyAll ops).assembly.elements.controlPoints.items ≠ [] ∧
      (s.applyAll ops).assembly.elements.allIds = [⟨1⟩, ⟨2⟩, ⟨4⟩, ⟨7⟩, ⟨5⟩, ⟨6⟩] ∧
      (s.applyAll ops).assembly.elements.count = 6 ∧
      (s.applyAll ops).assembly.elements.controlPoints.size = 2 ∧
      (s.applyAll ops).assembly.elements.hardpoints.size = 0 ∧
      (s.applyAll ops).assembly.elements.lights.size = 2 ∧
      (s.applyAll ops).assembly.elements.rooms.size = 1 ∧
      (s.applyAll ops).assembly.elements.features.size = 1 :=
    ⟨_, rfl, rfl, rfl, rfl, nofun, rfl, rfl, rfl, rfl, rfl, rfl, rfl⟩
  obtain ⟨s, hs, hid, hid', hsegments, hpoints, hids, hcount, hsize, hhardpoints, hlights, hrooms,
    hfeatures⟩ := hopen
  have hnew : ∀ id className seed settings, s = newShip id className seed settings → id ≠ "" := by
    intro id className seed settings hship hempty
    have hsame : s.id = id := congrArg Session.id hship
    exact absurd (hid.symm.trans (hsame.trans hempty)) (by decide)
  obtain ⟨t, ht, htid, -, -, -, hdirty, hbare, htids, mesh, hmesh, hmesh', hjoined⟩ :=
    reopened_like_original (.ofDesign hs) hnew ops hpoints
  have hresolution : Pipeline.resolution 8 = 8 := Pipeline.resolution_eq (by decide)
  rw [hcount] at htids
  rw [hsegments, hresolution] at hjoined
  have hfit : Mesh.vertexTotal ((s.applyAll ops).assembly.elements.parts 8) < 2 ^ 32 := by
    rw [Elements.vertexTotal_parts, hsize, hhardpoints, hlights, hrooms, hfeatures]
    decide
  exact ⟨s, hs, hids, t, ht, htid.trans hid', hdirty, hbare, htids, mesh, hmesh, hmesh',
    hjoined hfit⟩

end Session

end Shipwright
