import Shipwright.Proofs.Ship.Pipeline

/-!
# A session generates the whole ship

The methods of a session change what is placed on the ship and never its stages. So a
session that was opened on the standard pipeline has it for good, and whatever has been
edited meanwhile, generating succeeds and gives the parts that are on the ship now.
-/

namespace Shipwright

variable {α : Type} [Trigonometric α]

namespace Pipeline

variable {segments : UInt32} {a b : Assembly α}

/-- An operation that leaves the stages and edges of a ship alone leaves its pipeline alone. -/
theorem Laid.apply (h : Laid segments a.graph) {op : Assembly.Op α} (hop : op.keepsPlan = true) :
    Laid segments (a.apply op).graph := by
  rcases a.graph_apply op with ⟨_, rfl, _⟩ | ⟨op', hkeeps, _, hgraph⟩
  · contradiction
  · obtain ⟨hnodes, hedges⟩ := a.graph.plan_apply (hkeeps hop)
    rw [hgraph]
    exact ⟨hnodes.trans h.nodes, hedges.trans h.edges⟩

/-- What becomes of a ship by such operations has the pipeline still. -/
theorem Laid.of_becomes (h : Laid segments a.graph) (hb : a.Becomes b) : Laid segments b.graph := by
  obtain ⟨ops, hops, rfl⟩ := hb
  refine List.foldlRecOn (motive := fun b => Laid segments b.graph) ops Assembly.apply h ?_
  intro b hb op hop
  exact hb.apply (hops op hop)

/-- A ship with the standard pipeline compiles. -/
theorem Laid.exists_compile {α : Type} {a : Assembly α} (h : Laid segments a.graph) :
    ∃ b, a.compile = (b, .ok ()) ∧ b.compiled = true ∧ b.graph.Fresh ∧
      b.elements = a.elements ∧ Laid segments b.graph := by
  obtain ⟨order, hschedule⟩ := h.exists_schedule
  refine ⟨{ a with graph := { a.graph with order, compiled := true } }, ?_, rfl,
    fun _ => hschedule, rfl, h.nodes, h.edges⟩
  simp only [Assembly.compile, Graph.compile_of_schedule hschedule]

/-- A compiled ship with the standard pipeline executes and has a mesh: the parts of the ship,
joined in order, provided that their vertices can be numbered. -/
theorem Laid.exists_execute (h : Laid segments a.graph) (hfresh : a.graph.Fresh)
    (hc : a.compiled = true) :
    ∃ b mesh, a.execute = (b, .ok ()) ∧ b.output? = some mesh ∧
      (Mesh.vertexTotal (a.elements.parts (resolution segments)) < 2 ^ 32 →
        mesh = .join (a.elements.parts (resolution segments))) := by
  have hschedule := hfresh hc
  obtain ⟨outputs, hexecute, hsolves⟩ := Assembly.exists_execute_of_fresh hfresh hc
  have hmem : Node.ofKind ⟨10⟩ .output ∈ a.graph.nodes := by
    rw [h.nodes]
    simp [stages]
  have hnodes : a.graph.nodes = (stages segments).take 9 ++ .ofKind ⟨10⟩ .output :: [] := h.nodes
  have hfirst : ∀ m ∈ (stages segments).take 9, m.kind ≠ .output := by simp [stages, Node.ofKind]
  let b : Assembly α := { a with graph := { a.graph with outputs } }
  have houtput : b.output? = outputs.get? (⟨10⟩, 0) :=
    Assembly.output?_of_first (a := b) hnodes rfl hfirst
  have hcached := hsolves.get?_of_mem hmem
  refine ⟨b, _, hexecute, houtput.trans hcached, fun hfit => ?_⟩
  rw [← h.parts_output hschedule] at hfit ⊢
  exact Option.some.inj (hcached.symm.trans (hsolves.get?_eq_join_parts hschedule hmem hfit))

end Pipeline

namespace Session

/-- A session as it begins: on a new ship, or on that of a design that is accepted. -/
inductive Opened : Session α → Prop
  /-- A new ship. -/
  | newShip (id className : String) (seed : UInt64) (settings : Settings α) :
    Opened (newShip id className seed settings)
  /-- The ship of a design that is accepted. -/
  | ofDesign {d : Design α} {settings : Settings α} {s : Session α}
    (h : ofDesign d settings = .ok s) : Opened s

variable {s : Session α}

/-- A session is opened on the standard pipeline with the ring resolution of its settings. -/
theorem Opened.laid (h : s.Opened) : Pipeline.Laid s.settings.segments s.assembly.graph := by
  cases h with
  | newShip id className seed settings => exact Pipeline.laid_build _ _
  | ofDesign h =>
    rw [(of_ofDesign h).1, (of_ofDesign h).2]
    exact Pipeline.laid_build _ _

/-- A session whose ship has the standard pipeline generates a mesh: the parts of the ship, joined
in order, provided that their vertices can be numbered. -/
theorem exists_generate_eq_ok {segments : UInt32} (hreachable : s.assembly.Reachable)
    (h : Pipeline.Laid segments s.assembly.graph) :
    ∃ mesh, s.generate.2 = .ok mesh ∧
      (Mesh.vertexTotal (s.assembly.elements.parts (Pipeline.resolution segments)) < 2 ^ 32 →
        mesh = .join (s.assembly.elements.parts (Pipeline.resolution segments))) := by
  obtain ⟨a, hcompile, hcompiled, hfresh, helements, hlaid⟩ := h.exists_compile
  obtain ⟨b, mesh, hexecute, houtput, hjoined⟩ := hlaid.exists_execute hfresh hcompiled
  rw [helements] at hjoined
  refine ⟨mesh, ?_, hjoined⟩
  simp only [generate_eq_generateAfresh hreachable.graph.fresh, generateAfresh, hcompile, hexecute,
    houtput, Option.getD_some]

variable [Ron.Codec α]

/-- Whatever its methods have done, a session that was opened on a ship is reachable. -/
theorem Opened.reachable_applyAll (h : s.Opened) (ops : List (Op α)) :
    (s.applyAll ops).Reachable := by
  refine List.foldlRecOn (motive := Reachable) ops apply ?_ (fun t ht op _ => ht.apply op)
  cases h with
  | newShip id className seed settings => exact .newShip id className seed settings
  | ofDesign h => exact .ofDesign h

/-- Whatever its methods have done, a session has the pipeline it was opened with. -/
theorem Opened.laid_applyAll (h : s.Opened) (ops : List (Op α)) :
    Pipeline.Laid s.settings.segments (s.applyAll ops).assembly.graph := by
  refine List.foldlRecOn
    (motive := fun t => Pipeline.Laid s.settings.segments t.assembly.graph) ops apply h.laid ?_
  intro t ht op _
  exact ht.of_becomes (t.becomes_apply op)

/-- However a session was begun, and whatever its methods have done since, generating succeeds. If
the vertices can be numbered, the mesh is the hull around the present control points, the mounts
of the hardpoints, the markers of the lights, the walls of the rooms and the wedges of the
features, each kind in the order of its store, and it has so many vertices and triangles. -/
theorem generate_applyAll_eq_join_parts (h : s.Opened)
    (hsegments : s.settings.segments.toNat ≤ 2 ^ 31 - 1) (ops : List (Op α)) :
    let e := (s.applyAll ops).assembly.elements
    let n := e.controlPoints.size
    let segments := s.settings.segments.toNat
    let vertices := (if 2 ≤ n ∧ 3 ≤ segments then n * segments + 2 else 0) +
      13 * e.hardpoints.size + 6 * e.lights.size + 24 * e.rooms.size + 6 * e.features.size
    let triangles := (if 2 ≤ n ∧ 3 ≤ segments then 2 * n * segments else 0) +
      18 * e.hardpoints.size + 8 * e.lights.size + 12 * e.rooms.size + 8 * e.features.size
    ∃ mesh, (s.applyAll ops).generate.2 = .ok mesh ∧
      (vertices < 2 ^ 32 → mesh = .join (e.parts segments) ∧ mesh.vertexCount = vertices ∧
        mesh.triangleCount = triangles) := by
  intro e n segments vertices triangles
  have hresolution : Pipeline.resolution s.settings.segments = segments :=
    Pipeline.resolution_eq (by omega)
  have hvertices : Mesh.vertexTotal (e.parts segments) = vertices := e.vertexTotal_parts segments
  have htriangles : Mesh.triangleTotal (e.parts segments) = triangles :=
    e.triangleTotal_parts segments
  obtain ⟨mesh, hmesh, hjoined⟩ :=
    exists_generate_eq_ok (h.reachable_applyAll ops).assembly (h.laid_applyAll ops)
  rw [hresolution] at hjoined
  refine ⟨mesh, hmesh, fun hfit => ?_⟩
  rw [← hvertices] at hfit
  have hwellFormed : ∀ m ∈ e.parts segments, m.WellFormed :=
    Elements.wellFormed_of_mem_parts (Elements.vertexCount_loft_lt hfit)
  have hmesh : mesh = .join (e.parts segments) := hjoined hfit
  refine ⟨hmesh, ?_, ?_⟩
  · rw [hmesh, Mesh.vertexCount_join fun m hm => (hwellFormed m hm).whole, hvertices]
  · rw [hmesh, Mesh.triangleCount_join hwellFormed hfit, htriangles]

/-- A design with two control points and one element of each other kind. -/
def oneOfEach : Design Single :=
  { Design.empty with
    id := "one-of-each", controlPoints := [default, default], hardpoints := [default]
    lights := [default], rooms := [default], features := [default] }

/-- A session on that design, with a light added and the hardpoint removed, generates a mesh of
sixty vertices and sixty-eight triangles. -/
theorem generate_oneOfEach_eq_join_parts :
    ∃ s : Session Single, ofDesign oneOfEach .standard = .ok s ∧
      s.settings.segments.toNat ≤ 2 ^ 31 - 1 ∧
      let t := s.applyAll [.add (.light default) 5, .remove .hardpoint ⟨3⟩ 6]
      ∃ mesh, t.generate.2 = .ok mesh ∧ mesh = .join (t.assembly.elements.parts 8) ∧
        mesh.vertexCount = 60 ∧ mesh.triangleCount = 68 := by
  let ops : List (Op Single) := [.add (.light default) 5, .remove .hardpoint ⟨3⟩ 6]
  have hopen : ∃ s : Session Single, ofDesign oneOfEach .standard = .ok s ∧
      s.settings.segments = 8 ∧ (s.applyAll ops).assembly.elements.controlPoints.size = 2 ∧
      (s.applyAll ops).assembly.elements.hardpoints.size = 0 ∧
      (s.applyAll ops).assembly.elements.lights.size = 2 ∧
      (s.applyAll ops).assembly.elements.rooms.size = 1 ∧
      (s.applyAll ops).assembly.elements.features.size = 1 :=
    ⟨_, rfl, rfl, rfl, rfl, rfl, rfl, rfl⟩
  obtain ⟨s, hs, hsegments, hpoints, hhardpoints, hlights, hrooms, hfeatures⟩ := hopen
  have hbound : s.settings.segments.toNat ≤ 2 ^ 31 - 1 := by
    rw [hsegments]
    decide
  obtain ⟨mesh, hmesh, hcounts⟩ := generate_applyAll_eq_join_parts (.ofDesign hs) hbound ops
  rw [hsegments, hpoints, hhardpoints, hlights, hrooms, hfeatures] at hcounts
  exact ⟨s, hs, hbound, mesh, hmesh, hcounts (by decide)⟩

end Session

end Shipwright
