import Shipwright.Proofs.Graph.Cached
import Shipwright.Proofs.Mesh.Shapes
import Shipwright.Proofs.Ship.Execution

/-!
# What a ship caches can be drawn

Every mesh that comes out of a stage of a ship is well formed, however the stages are
wired and whatever the elements and properties say: each shape is, joining keeps it
so, and a slot without an edge has the empty mesh. The one limit is that vertices are
numbered by 32-bit words.
-/

namespace Shipwright

variable {α : Type} [Trigonometric α]

namespace Stage

/-- A stage that is given meshes that can be drawn yields one that can be drawn. -/
theorem drawable_mesh (s : Elements α) (n : Node Stage) {inputs : List (Mesh α)}
    (h : ∀ m ∈ inputs, m.Drawable) : (mesh s n inputs).Drawable := by
  have hdefault : (default : Mesh α).Drawable := fun _ => Mesh.wellFormed_empty
  have hfirst : (inputs.headD default).Drawable := by
    cases inputs with
    | nil => exact hdefault
    | cons m _ => exact h m (List.mem_cons_self ..)
  unfold mesh
  split
  · exact Mesh.wellFormed_loft
  · exact Mesh.drawable_join (List.forall_mem_map.mpr fun _ _ _ => Mesh.wellFormed_turret ..)
  · exact Mesh.drawable_join (List.forall_mem_map.mpr fun _ _ _ => Mesh.wellFormed_marker ..)
  · exact Mesh.drawable_join (List.forall_mem_map.mpr fun _ _ _ => Mesh.wellFormed_room ..)
  · exact Mesh.drawable_join (List.forall_mem_map.mpr fun _ _ _ => Mesh.wellFormed_wedge ..)
  · split
    · exact (h _ (by simp)).append (h _ (by simp))
    · exact hfirst
  · exact hfirst

/-- The stages of a ship hand on that meshes can be drawn. -/
theorem keeps_drawable (s : Elements α) : (evaluator s).Keeps Mesh.Drawable := by
  intro n inputs hinputs port m hm
  rw [get?_evaluator] at hm
  obtain ⟨_, hm⟩ := Option.ite_none_right_eq_some.mp hm
  obtain rfl := Option.some.inj hm
  exact drawable_mesh s n hinputs

end Stage

namespace Assembly

/-- An operation keeps it so that all cached meshes can be drawn. -/
theorem all_drawable_apply {a : Assembly α} (h : a.graph.outputs.All Mesh.Drawable) (op : Op α) :
    (a.apply op).graph.outputs.All Mesh.Drawable := by
  rcases a.graph_apply op with ⟨segments, _, hgraph⟩ | ⟨op', _, hevaluate, hgraph⟩ <;> rw [hgraph]
  · exact OutputCache.all_empty
  · refine Graph.all_apply (fun _ => Mesh.wellFormed_empty) h fun evaluate hexecute => ?_
    rw [hevaluate evaluate hexecute]
    exact Stage.keeps_drawable a.elements

/-- All meshes that a reachable ship has cached can be drawn. -/
theorem Reachable.all_drawable {a : Assembly α} (h : a.Reachable) :
    a.graph.outputs.All Mesh.Drawable :=
  h.induction (P := fun a => a.graph.outputs.All Mesh.Drawable) OutputCache.all_empty
    fun _ op ha => all_drawable_apply ha op

/-- Whatever operations have made of a ship, every mesh it has cached is well formed if its vertices
can be numbered by 32-bit words: there are as many normals as positions, vertices and triangles are
complete, and every index is that of a vertex. A successful execution caches such a mesh for every
stage. -/
theorem wellFormed_of_cached {a : Assembly α} (h : a.Reachable) :
    (∀ id port m, a.graph.output? id port = some m → m.vertexCount < 2 ^ 32 → m.WellFormed) ∧
    ∀ b, a.execute = (b, .ok ()) → ∀ n ∈ a.graph.nodes, ∃ m,
      b.graph.output? n.id 0 = some m ∧ (m.vertexCount < 2 ^ 32 → m.WellFormed) := by
  refine ⟨h.all_drawable, ?_⟩
  intro b hb n hn
  obtain ⟨outputs, hexecute, hsolves⟩ := h.exists_execute (compiled_of_execute hb)
  have hdrawable : a.execute.1.graph.outputs.All Mesh.Drawable :=
    all_drawable_apply h.all_drawable .execute
  rw [hexecute] at hb hdrawable
  obtain ⟨rfl, -⟩ := Prod.mk.inj hb
  have hcached := hsolves.get?_of_mem hn
  exact ⟨_, hcached, hdrawable n.id 0 _ hcached⟩

/-- Two lights, and the stage that marks them. -/
def twoLights : Assembly Single :=
  empty.applyAll [.addNode .lightFixture, .add (.light default), .add (.light default), .compile]

/-- The markers of two lights, which have twelve vertices, are well formed. -/
theorem wellFormed_twoLights :
    twoLights.Reachable ∧ twoLights.execute.2 = .ok () ∧
    ∃ m, twoLights.execute.1.graph.output? ⟨1⟩ 0 = some m ∧ m.vertexCount = 12 ∧
      m.WellFormed := by
  have hreachable : twoLights.Reachable := ⟨_, rfl⟩
  have hexecute : twoLights.execute.2 = .ok () := rfl
  obtain ⟨m, hm, hwellFormed⟩ := (wellFormed_of_cached hreachable).2 _
    (Prod.ext rfl hexecute) (.ofKind ⟨1⟩ .lightFixture) (List.mem_singleton.mpr rfl)
  have hmarkers : twoLights.execute.1.graph.output? ⟨1⟩ 0 = some (.join
      (twoLights.elements.lights.items.map fun l => .marker l.position l.interior)) := rfl
  obtain rfl := Option.some.inj (hm.symm.trans hmarkers)
  have hcount : (Mesh.join (twoLights.elements.lights.items.map fun l =>
      Mesh.marker l.position l.interior)).vertexCount = 12 := by
    have hwhole : ∀ l : Light Single, (Mesh.marker l.position l.interior).Whole :=
      fun _ => (Mesh.wellFormed_marker ..).whole
    rw [Mesh.vertexCount_join (List.forall_mem_map.mpr fun l _ => hwhole l),
      Mesh.vertexTotal_map_of_const fun _ => Mesh.vertexCount_marker ..]
    rfl
  exact ⟨hreachable, hexecute, _, hm, hcount, hwellFormed (by rw [hcount]; decide)⟩

end Assembly

end Shipwright
