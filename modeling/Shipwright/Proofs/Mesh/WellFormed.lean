import Shipwright.Proofs.Mesh.Join

/-!
# Well-formed meshes

What a renderer relies on: every vertex is complete and has a normal, every
triangle has three corners, and every corner is a vertex of the mesh. A mesh that is
made of vertices and of triangles over them is well formed, and joining keeps meshes
so as long as their vertices can be counted in 32 bits.
-/

namespace Shipwright

@[simp] theorem Triangle.length_toList (t : Triangle) : t.toList.length = 3 := rfl

/-- What holds of each of three corners. -/
theorem Triangle.forall_mem_toList {P : UInt32 → Prop} (t : Triangle) :
    (∀ i ∈ t.toList, P i) ↔ P t.1 ∧ P t.2.1 ∧ P t.2.2 := by
  simp [toList]

namespace Mesh

variable {α : Type} {a b m : Mesh α}

/-- The buffers of a mesh fit each other. -/
structure WellFormed (m : Mesh α) : Prop where
  /-- There are as many normals as positions. -/
  normals : m.normals.length = m.vertices.length
  /-- Every vertex has its three coordinates. -/
  whole : m.Whole
  /-- Every triangle has its three corners. -/
  indices : 3 ∣ m.indices.length
  /-- Every corner is a vertex. -/
  bounded : ∀ i ∈ m.indices, i.toNat < m.vertexCount

/-- The mesh without vertices is well formed. -/
theorem wellFormed_empty : (empty : Mesh α).WellFormed :=
  ⟨rfl, whole_empty, Nat.dvd_zero 3, fun _ hi => nomatch hi⟩

@[simp] theorem triangleCount_empty : (empty : Mesh α).triangleCount = 0 := Nat.zero_div 3

/-- The triangles of two meshes add up. -/
theorem WellFormed.triangleCount_append (ha : a.WellFormed) (b : Mesh α) :
    (a ++ b).triangleCount = a.triangleCount + b.triangleCount := by
  have hindices := ha.indices
  simp only [triangleCount, indices_append, List.length_append, List.length_map]
  omega

/-- Well-formed meshes are joined to one that is well formed. -/
theorem WellFormed.append (ha : a.WellFormed) (hb : b.WellFormed)
    (h : a.vertexCount + b.vertexCount < 2 ^ 32) : (a ++ b).WellFormed := by
  have hcount := ha.whole.vertexCount_append b
  refine ⟨?_, ha.whole.append hb.whole, ?_, ?_⟩
  · rw [normals_append, vertices_append, List.length_append, List.length_append, ha.normals,
      hb.normals]
  · rw [indices_append, List.length_append, List.length_map]
    exact Nat.dvd_add ha.indices hb.indices
  · intro i hi
    rw [indices_append] at hi
    rcases List.mem_append.mp hi with hi | hi
    · have := ha.bounded i hi
      omega
    · obtain ⟨j, hj, rfl⟩ := List.mem_map.mp hi
      have := hb.bounded j hj
      rw [toNat_add_nextIndex (by omega)]
      omega

/-- A mesh can be drawn: it is well formed, unless it has more vertices than can be counted. -/
def Drawable (m : Mesh α) : Prop := m.vertexCount < 2 ^ 32 → m.WellFormed

/-- Meshes that can be drawn are joined to one that can be drawn. -/
theorem Drawable.append (ha : a.Drawable) (hb : b.Drawable) : (a ++ b).Drawable := by
  intro h
  have hleft : a.vertexCount ≤ (a ++ b).vertexCount :=
    Nat.div_le_div_right (by simp)
  have hright : b.vertexCount ≤ (a ++ b).vertexCount :=
    Nat.div_le_div_right (by simp)
  have ha := ha (by omega)
  have hb := hb (by omega)
  rw [ha.whole.vertexCount_append] at h
  exact ha.append hb h

/-- A list of meshes that can be drawn is joined to one that can be drawn. -/
theorem drawable_join {ms : List (Mesh α)} (hms : ∀ m ∈ ms, m.Drawable) :
    (join ms).Drawable := by
  induction ms using List.reverseRecOn with
  | nil => exact fun _ => wellFormed_empty
  | append_singleton ms m ih =>
    rw [join_append_singleton]
    exact (ih fun m hm => hms m (by simp [hm])).append (hms m (by simp))

/-- A list of well-formed meshes is joined to one that is well formed. -/
theorem wellFormed_join {ms : List (Mesh α)} (hms : ∀ m ∈ ms, m.WellFormed)
    (h : vertexTotal ms < 2 ^ 32) : (join ms).WellFormed := by
  rw [← vertexCount_join fun m hm => (hms m hm).whole] at h
  exact drawable_join (fun m hm _ => hms m hm) h

/-- The joint mesh has all the triangles. -/
theorem triangleCount_join {ms : List (Mesh α)} (hms : ∀ m ∈ ms, m.WellFormed)
    (h : vertexTotal ms < 2 ^ 32) :
    (join ms).triangleCount = triangleTotal ms := by
  induction ms using List.reverseRecOn with
  | nil => exact triangleCount_empty
  | append_singleton ms m ih =>
    have hbefore : ∀ m ∈ ms, m.WellFormed := fun m hm => hms m (by simp [hm])
    rw [vertexTotal_append, vertexTotal_singleton] at h
    have hfit : vertexTotal ms < 2 ^ 32 := by omega
    rw [join_append_singleton, (wellFormed_join hbefore hfit).triangleCount_append,
      ih hbefore hfit]
    simp

/-- Lists of one length, put one after the other. -/
theorem length_flatMap_const {τ υ : Type} {f : τ → List υ} {k : Nat} (h : ∀ x, (f x).length = k)
    (xs : List τ) : (xs.flatMap f).length = k * xs.length := by
  rw [List.length_flatMap, sum_map_of_const h]

section Corners

variable (cs : List (Corner α)) (ts : List Triangle)

/-- Appended vertices are counted, whatever triangles come with them. -/
theorem vertexCount_addTriangles_addCorners (m : Mesh α) :
    ((m.addCorners cs).addTriangles ts).vertexCount = m.vertexCount + cs.length := by
  have hlength := length_flatMap_const (fun c : Corner α => c.position.length_toList) cs
  simp only [vertexCount, addTriangles, addCorners, List.length_append, hlength]
  omega

/-- Appended triangles are counted, whatever vertices come with them. -/
theorem triangleCount_addTriangles_addCorners (m : Mesh α) :
    ((m.addCorners cs).addTriangles ts).triangleCount = m.triangleCount + ts.length := by
  have hlength := length_flatMap_const Triangle.length_toList ts
  simp only [triangleCount, addTriangles, addCorners, List.length_append, hlength]
  omega

variable {cs ts}

/-- A mesh stays well formed with vertices appended, and triangles over all of its vertices. -/
theorem WellFormed.addTriangles_addCorners (hm : m.WellFormed)
    (h : ∀ t ∈ ts, ∀ i ∈ t.toList, i.toNat < m.vertexCount + cs.length) :
    ((m.addCorners cs).addTriangles ts).WellFormed := by
  have hcount := vertexCount_addTriangles_addCorners cs ts m
  have hpositions := length_flatMap_const (fun c : Corner α => c.position.length_toList) cs
  have hnormals := length_flatMap_const (fun c : Corner α => c.normal.length_toList) cs
  have hindices := length_flatMap_const Triangle.length_toList ts
  have hwhole := hm.whole
  have hmultiple := hm.indices
  refine ⟨?_, ?_, ?_, ?_⟩
  · simp only [addTriangles, addCorners, List.length_append, hm.normals, hpositions, hnormals]
  · simp only [Whole, addTriangles, addCorners, List.length_append, hpositions] at hwhole ⊢
    omega
  · simp only [addTriangles, addCorners, List.length_append, hindices]
    omega
  · intro i hi
    rw [hcount]
    rcases List.mem_append.mp hi with hi | hi
    · have := hm.bounded i hi
      omega
    · obtain ⟨t, ht, hi⟩ := List.mem_flatMap.mp hi
      exact h t ht i hi

/-- A mesh has the vertices it is made of. -/
@[simp] theorem vertexCount_ofCorners : (ofCorners cs ts).vertexCount = cs.length := by
  rw [ofCorners, vertexCount_addTriangles_addCorners, vertexCount_empty, Nat.zero_add]

/-- A mesh has the triangles it is made of. -/
@[simp] theorem triangleCount_ofCorners : (ofCorners cs ts).triangleCount = ts.length := by
  rw [ofCorners, triangleCount_addTriangles_addCorners, triangleCount_empty, Nat.zero_add]

/-- Vertices are appended behind those that a mesh is made of. -/
@[simp] theorem addCorners_ofCorners (ds : List (Corner α)) :
    (ofCorners cs ts).addCorners ds = ofCorners (cs ++ ds) ts := by
  simp only [ofCorners, addCorners, addTriangles, List.flatMap_append, List.append_assoc]

/-- Triangles are appended behind those that a mesh is made of. -/
@[simp] theorem addTriangles_ofCorners (us : List Triangle) :
    (ofCorners cs ts).addTriangles us = ofCorners cs (ts ++ us) := by
  simp only [ofCorners, addTriangles, List.flatMap_append, List.append_assoc]

/-- A vertex that is pushed gets the number of those before it for an index, or the largest index
once that is passed. -/
@[simp] theorem pushVertex_ofCorners (position normal : Vec3 α) :
    (ofCorners cs ts).pushVertex position normal =
      (ofCorners (cs ++ [⟨position, normal⟩]) ts, .ofNatClamp cs.length) := by
  rw [pushVertex, nextIndex, vertexCount_ofCorners, addCorners_ofCorners]

/-- A mesh made of vertices has each of them completely. -/
theorem whole_ofCorners : (ofCorners cs ts).Whole := by
  have hpositions := length_flatMap_const (fun c : Corner α => c.position.length_toList) cs
  exact ⟨cs.length, hpositions⟩

/-- A mesh is well formed if its triangles are over its vertices. -/
theorem wellFormed_ofCorners (count : Nat) (hcount : cs.length = count)
    (h : ∀ t ∈ ts, ∀ i ∈ t.toList, i.toNat < count) : (ofCorners cs ts).WellFormed := by
  refine wellFormed_empty.addTriangles_addCorners ?_
  rwa [vertexCount_empty, Nat.zero_add, hcount]

end Corners

end Mesh

end Shipwright
