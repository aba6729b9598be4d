import Shipwright.Single
import Shipwright.Proofs.Mesh.Surface

/-!
# What joined meshes show

A renderer knows a triangle by what it finds at the three corners: a position and a normal each.
Joining shifts the indices of the second mesh past the vertices of the first, and that is just what
keeps these: the joint mesh shows the triangles of its parts, one part after the other, each corner
with the position and the normal it had there. Together with the laws of joining this makes meshes
with complete vertices behave like lists of parts.
-/

namespace Shipwright

/-- Indices whose number is a multiple of three are read in threes up to where others follow. -/
theorem Triangle.ofIndices_append {is : List UInt32} (h : 3 ∣ is.length) (js : List UInt32) :
    ofIndices (is ++ js) = ofIndices is ++ ofIndices js := by
  fun_induction ofIndices is with
  | case1 a b c is ih =>
    have hrest : 3 ∣ is.length := by
      simp only [List.length_cons] at h
      omega
    exact congrArg ((a, b, c) :: ·) (ih hrest)
  | case2 is hshort =>
    have hless := length_lt_three hshort
    obtain rfl : is = [] := List.length_eq_zero_iff.mp (by omega)
    rfl

/-- Changing every index changes every corner. -/
theorem Triangle.ofIndices_map (f : UInt32 → UInt32) (is : List UInt32) :
    ofIndices (is.map f) = (ofIndices is).map (Facet.map f) := by
  fun_induction ofIndices is with
  | case1 a b c is ih => exact congrArg ((f a, f b, f c) :: ·) ih
  | case2 is hshort =>
    exact ofIndices_eq_nil (by rw [List.length_map]; exact length_lt_three hshort)

/-- The corners of a triangle that is read from indices are among them. -/
theorem Triangle.mem_of_mem_ofIndices {is : List UInt32} {t : Triangle} (h : t ∈ ofIndices is) :
    ∀ i ∈ t.toList, i ∈ is := by
  fun_induction ofIndices is with
  | case1 a b c is ih =>
    intro i hi
    rcases List.mem_cons.mp h with rfl | h
    · have habc : i ∈ [a, b, c] := hi
      exact List.mem_append_left is habc
    · exact List.mem_append_right [a, b, c] (ih h i hi)
  | case2 => cases h

namespace Mesh

variable {α : Type} {a b m : Mesh α}

section Buffers

variable {xs : List α}

/-- A buffer has a vector at each place it has room for. -/
theorem exists_vectorAt? {i : Nat} (h : i < xs.length / 3) : ∃ v, vectorAt? xs i = some v := by
  have hlength : ((xs.drop (i * 3)).take 3).length = 3 := by
    rw [List.length_take, List.length_drop]
    omega
  obtain ⟨x, y, z, hxyz⟩ := List.length_eq_three.mp hlength
  exact ⟨⟨x, y, z⟩, by simp only [vectorAt?, hxyz]⟩

/-- What is appended to a buffer does not change the vectors in front of it. -/
theorem vectorAt?_append_left {i : Nat} (h : i < xs.length / 3) (ys : List α) :
    vectorAt? (xs ++ ys) i = vectorAt? xs i := by
  have hdrop : i * 3 ≤ xs.length := by omega
  have htake : 3 ≤ (xs.drop (i * 3)).length := by
    rw [List.length_drop]
    omega
  rw [vectorAt?, List.drop_append_of_le_length hdrop, List.take_append_of_le_length htake]
  rfl

/-- Behind whole vectors the appended ones follow. -/
theorem vectorAt?_append_right (h : 3 ∣ xs.length) (ys : List α) (i : Nat) :
    vectorAt? (xs ++ ys) (xs.length / 3 + i) = vectorAt? ys i := by
  have hplace : (xs.length / 3 + i) * 3 = xs.length + i * 3 := by omega
  rw [vectorAt?, hplace, List.drop_length_add_append]
  rfl

/-- What is done to every number of a buffer is done to the three of each vector. -/
theorem vectorAt?_map {β : Type} (f : α → β) (xs : List α) (i : Nat) :
    vectorAt? (xs.map f) i = (vectorAt? xs i).map fun v => ⟨f v.x, f v.y, f v.z⟩ := by
  unfold vectorAt?
  rw [← List.map_drop, ← List.map_take]
  rcases (xs.drop (i * 3)).take 3 with _ | ⟨x, _ | ⟨y, _ | ⟨z, _ | ⟨w, ws⟩⟩⟩⟩ <;> rfl

end Buffers

/-- The vertex that an index leads to, if the mesh has its position and its normal. -/
def corner? (m : Mesh α) (i : UInt32) : Option (Corner α) :=
  (m.position? i.toNat).bind fun position =>
    (m.normal? i.toNat).map fun normal => ⟨position, normal⟩

/-- The triangles of a mesh by what is found at their corners. -/
def faces (m : Mesh α) : List (Facet (Option (Corner α))) := m.triangles.map (Facet.map m.corner?)

/-- A vertex has a position and a normal. -/
theorem WellFormed.exists_corner? (hm : m.WellFormed) {i : UInt32} (h : i.toNat < m.vertexCount) :
    ∃ c, m.corner? i = some c := by
  obtain ⟨position, hposition⟩ := exists_vectorAt? h
  rw [vertexCount, ← hm.normals] at h
  obtain ⟨normal, hnormal⟩ := exists_vectorAt? h
  exact ⟨⟨position, normal⟩, by simp only [corner?, position?, normal?, hposition, hnormal,
    Option.bind_some, Option.map_some]⟩

/-- The vertices of the first of two meshes stay where they were. -/
theorem WellFormed.corner?_append_left (ha : a.WellFormed) {i : UInt32}
    (h : i.toNat < a.vertexCount) (b : Mesh α) : (a ++ b).corner? i = a.corner? i := by
  have hnormal : i.toNat < a.normals.length / 3 := by rwa [ha.normals]
  simp only [corner?, position?, normal?, vertices_append, normals_append,
    vectorAt?_append_left h, vectorAt?_append_left hnormal]

/-- A shifted index leads to the vertex that the index led to in the second of two meshes. -/
theorem WellFormed.corner?_append_right (ha : a.WellFormed) (b : Mesh α) {i : UInt32}
    (h : a.vertexCount + i.toNat < 2 ^ 32) : (a ++ b).corner? (i + a.nextIndex) = b.corner? i := by
  have hindex := toNat_add_nextIndex h
  have hnormals : 3 ∣ a.normals.length := by
    rw [ha.normals]
    exact ha.whole
  have hposition := vectorAt?_append_right ha.whole b.vertices i.toNat
  have hnormal := vectorAt?_append_right hnormals b.normals i.toNat
  rw [ha.normals] at hnormal
  simp only [corner?, position?, normal?, vertices_append, normals_append, hindex, vertexCount,
    hposition, hnormal]

/-- The triangles of the second of two meshes follow those of the first, with shifted corners. -/
theorem WellFormed.triangles_append (ha : a.WellFormed) (b : Mesh α) :
    (a ++ b).triangles = a.triangles ++ b.triangles.map (Facet.map (· + a.nextIndex)) := by
  rw [triangles, indices_append, Triangle.ofIndices_append ha.indices, Triangle.ofIndices_map]
  rfl

/-- The corners of the triangles of a well-formed mesh are vertices. -/
theorem WellFormed.lt_of_mem_triangles (hm : m.WellFormed) {t : Triangle} (ht : t ∈ m.triangles) :
    t.1.toNat < m.vertexCount ∧ t.2.1.toNat < m.vertexCount ∧ t.2.2.toNat < m.vertexCount :=
  (Triangle.forall_mem_toList t).mp fun i hi =>
    hm.bounded i (Triangle.mem_of_mem_ofIndices ht i hi)

/-- Two meshes joined show what the first shows, then what the second shows. -/
theorem WellFormed.faces_append (ha : a.WellFormed) (hb : b.WellFormed)
    (h : a.vertexCount + b.vertexCount < 2 ^ 32) : (a ++ b).faces = a.faces ++ b.faces := by
  have hleft : ∀ t ∈ a.triangles, Facet.map (a ++ b).corner? t = Facet.map a.corner? t := by
    intro t ht
    obtain ⟨hfirst, hsecond, hthird⟩ := ha.lt_of_mem_triangles ht
    simp only [Facet.map, ha.corner?_append_left hfirst, ha.corner?_append_left hsecond,
      ha.corner?_append_left hthird]
  have hright : ∀ t ∈ b.triangles,
      (Facet.map (a ++ b).corner? ∘ Facet.map (· + a.nextIndex)) t = Facet.map b.corner? t := by
    intro t ht
    obtain ⟨hfirst, hsecond, hthird⟩ := hb.lt_of_mem_triangles ht
    simp only [Function.comp_apply, Facet.map, ha.corner?_append_right b (i := t.1) (by omega),
      ha.corner?_append_right b (i := t.2.1) (by omega),
      ha.corner?_append_right b (i := t.2.2) (by omega)]
  rw [faces, ha.triangles_append, List.map_append, List.map_map, List.map_congr_left hleft,
    List.map_congr_left hright]
  rfl

/-- A list of meshes joined shows what each of them shows, in order. -/
theorem faces_join {ms : List (Mesh α)} (hms : ∀ m ∈ ms, m.WellFormed)
    (h : vertexTotal ms < 2 ^ 32) : (join ms).faces = ms.flatMap faces := by
  induction ms using List.reverseRecOn with
  | nil => rfl
  | append_singleton ms m ih =>
    have hbefore : ∀ m ∈ ms, m.WellFormed := fun m hm => hms m (by simp [hm])
    rw [vertexTotal_append, vertexTotal_singleton] at h
    have hfit : vertexTotal ms < 2 ^ 32 := by omega
    have hcount := vertexCount_join fun m hm => (hbefore m hm).whole
    rw [join_append_singleton, (wellFormed_join hbefore hfit).faces_append (hms m (by simp))
      (by rwa [hcount]), ih hbefore hfit, List.flatMap_append, List.flatMap_singleton]

/-- Every triangle of a well-formed mesh shows three vertices. -/
theorem WellFormed.exists_of_mem_faces (hm : m.WellFormed) {f : Facet (Option (Corner α))}
    (hf : f ∈ m.faces) : ∃ t : Facet (Corner α), f = t.map some := by
  obtain ⟨t, ht, rfl⟩ := List.mem_map.mp hf
  obtain ⟨hfirst, hsecond, hthird⟩ := hm.lt_of_mem_triangles ht
  obtain ⟨c, hc⟩ := hm.exists_corner? hfirst
  obtain ⟨d, hd⟩ := hm.exists_corner? hsecond
  obtain ⟨e, he⟩ := hm.exists_corner? hthird
  exact ⟨(c, d, e), by simp only [Facet.map, hc, hd, he]⟩

/-- Meshes with complete vertices are joined like lists: it does not matter which are joined first,
the mesh without vertices changes nothing, and two lists joined at once are joined one after the
other. Well-formed meshes then show their triangles in order, with the position and the normal of
each corner. All of this holds as long as the vertices can be counted. -/
theorem joined_like_lists :
    (∀ a b c : Mesh α, a.Whole → a.vertexCount + b.vertexCount < 2 ^ 32 →
      a ++ b ++ c = a ++ (b ++ c)) ∧
    (∀ m : Mesh α, empty ++ m = m ∧ m ++ empty = m) ∧
    (∀ ms ns : List (Mesh α), (∀ m ∈ ms ++ ns, m.Whole) → vertexTotal (ms ++ ns) < 2 ^ 32 →
      join (ms ++ ns) = join ms ++ join ns) ∧
    ∀ ms : List (Mesh α), (∀ m ∈ ms, m.WellFormed) → vertexTotal ms < 2 ^ 32 →
      (join ms).faces = ms.flatMap faces ∧
      ∀ f ∈ (join ms).faces, ∃ t : Facet (Corner α), f = t.map some := by
  refine ⟨fun a b c ha h => ha.append_assoc h, fun m => ⟨empty_append m, append_empty m⟩,
    fun ms ns hwhole h => ?_, fun ms hms h => ⟨faces_join hms h, fun f hf => ?_⟩⟩
  · obtain ⟨hms, hns⟩ := List.forall_mem_append.mp hwhole
    exact join_append hms hns h
  · exact (wellFormed_join hms h).exists_of_mem_faces hf

/-- A mesh of one triangle across the x axis. -/
def sail (x : Single) : Mesh Single :=
  ofCorners [⟨⟨x, 0.0, 0.0⟩, .unitX⟩, ⟨⟨x, 1.0, 0.0⟩, .unitY⟩, ⟨⟨x, 0.0, 1.0⟩, .unitZ⟩] [(0, 2, 1)]

/-- A sail, one further on and the first one again are joined in any order, and show their triangles
with the vertices of each. -/
theorem joined_like_lists_sails :
    let near := sail 0.0
    let far := sail 1.0
    let shown (x : Single) : Facet (Corner Single) :=
      (⟨⟨x, 0.0, 0.0⟩, .unitX⟩, ⟨⟨x, 0.0, 1.0⟩, .unitZ⟩, ⟨⟨x, 1.0, 0.0⟩, .unitY⟩)
    (near.Whole ∧ near.vertexCount + far.vertexCount < 2 ^ 32 ∧
      near ++ far ++ near = near ++ (far ++ near)) ∧
    ((∀ m ∈ [near, far] ++ [near], m.Whole) ∧ vertexTotal ([near, far] ++ [near]) < 2 ^ 32 ∧
      join ([near, far] ++ [near]) = join [near, far] ++ join [near]) ∧
    (∀ m ∈ [near, far, near], m.WellFormed) ∧ vertexTotal [near, far, near] < 2 ^ 32 ∧
      (join [near, far, near]).faces = [shown 0.0, shown 1.0, shown 0.0].map (Facet.map some) := by
  intro near far shown
  have hsail : ∀ x, (sail x).WellFormed := fun x =>
    wellFormed_ofCorners 3 rfl (by simp [Triangle.forall_mem_toList])
  obtain ⟨hassoc, -, happend, hfaces⟩ := joined_like_lists (α := Single)
  have hnear : near.WellFormed := hsail 0.0
  have hfar : far.WellFormed := hsail 1.0
  have hall : ∀ m ∈ [near, far, near], m.WellFormed := by
    simp only [List.forall_mem_cons, hnear, hfar, true_and]
    exact fun m hm => nomatch hm
  have hwhole : ∀ m ∈ [near, far] ++ [near], m.Whole := fun m hm => (hall m hm).whole
  have hcount : near.vertexCount + far.vertexCount < 2 ^ 32 := by decide
  have htotal : vertexTotal ([near, far] ++ [near]) < 2 ^ 32 := by decide
  exact ⟨⟨hnear.whole, hcount, hassoc near far near hnear.whole hcount⟩,
    ⟨hwhole, htotal, happend _ _ hwhole htotal⟩, hall, htotal, (hfaces _ hall htotal).1⟩

end Mesh

end Shipwright
