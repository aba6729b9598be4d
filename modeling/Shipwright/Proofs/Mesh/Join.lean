import Shipwright.Mesh.Basic
import Mathlib.Algebra.Ring.Nat
import Mathlib.Data.List.Induction

/-!
# Joining meshes

Meshes whose vertices are complete are joined in the manner of lists: vertices and
triangles add up, brackets may be placed at will, and a list of meshes is joined
piece by piece or all at once. All of this rests on the index of the next vertex,
which counts the vertices as long as their number is a 32-bit word.
-/

namespace Shipwright

namespace Mesh

variable {α : Type} {a b c : Mesh α}

/-- Every vertex has its three coordinates. -/
def Whole (m : Mesh α) : Prop := 3 ∣ m.vertices.length

/-- The number of vertices of some meshes together. -/
def vertexTotal (ms : List (Mesh α)) : Nat := (ms.map vertexCount).sum

/-- The number of triangles of some meshes together. -/
def triangleTotal (ms : List (Mesh α)) : Nat := (ms.map triangleCount).sum

@[simp] theorem vertices_append (a b : Mesh α) : (a ++ b).vertices = a.vertices ++ b.vertices :=
  rfl

@[simp] theorem normals_append (a b : Mesh α) : (a ++ b).normals = a.normals ++ b.normals := rfl

@[simp] theorem indices_append (a b : Mesh α) :
    (a ++ b).indices = a.indices ++ b.indices.map (· + a.nextIndex) := rfl

@[simp] theorem vertexCount_empty : (empty : Mesh α).vertexCount = 0 := Nat.zero_div 3

@[simp] theorem vertexTotal_nil : vertexTotal ([] : List (Mesh α)) = 0 := rfl

@[simp] theorem vertexTotal_append (ms ns : List (Mesh α)) :
    vertexTotal (ms ++ ns) = vertexTotal ms + vertexTotal ns := by
  simp [vertexTotal]

@[simp] theorem vertexTotal_singleton (m : Mesh α) : vertexTotal [m] = m.vertexCount := by
  simp [vertexTotal]

@[simp] theorem triangleTotal_append (ms ns : List (Mesh α)) :
    triangleTotal (ms ++ ns) = triangleTotal ms + triangleTotal ns := by
  simp [triangleTotal]

@[simp] theorem triangleTotal_singleton (m : Mesh α) : triangleTotal [m] = m.triangleCount := by
  simp [triangleTotal]

/-- What adds up to one number for each entry of a list. -/
theorem sum_map_of_const {τ : Type} {f : τ → Nat} {k : Nat} (h : ∀ x, f x = k) (xs : List τ) :
    (xs.map f).sum = k * xs.length := by
  rw [List.map_congr_left fun x _ => h x, List.map_const', List.sum_replicate_nat, Nat.mul_comm]

/-- Meshes with one number of vertices each. -/
theorem vertexTotal_map_of_const {τ : Type} {f : τ → Mesh α} {k : Nat}
    (h : ∀ x, (f x).vertexCount = k) (xs : List τ) : vertexTotal (xs.map f) = k * xs.length := by
  rw [vertexTotal, List.map_map]
  exact sum_map_of_const h xs

/-- Meshes with one number of triangles each. -/
theorem triangleTotal_map_of_const {τ : Type} {f : τ → Mesh α} {k : Nat}
    (h : ∀ x, (f x).triangleCount = k) (xs : List τ) :
    triangleTotal (xs.map f) = k * xs.length := by
  rw [triangleTotal, List.map_map]
  exact sum_map_of_const h xs

/-- Where there are no vertices none is incomplete. -/
theorem whole_empty : (empty : Mesh α).Whole := Nat.dvd_zero 3

/-- Complete vertices remain complete. -/
theorem Whole.append (ha : a.Whole) (hb : b.Whole) : (a ++ b).Whole := by
  simp only [Whole, vertices_append, List.length_append] at *
  omega

/-- The vertices of two meshes add up. -/
theorem Whole.vertexCount_append (ha : a.Whole) (b : Mesh α) :
    (a ++ b).vertexCount = a.vertexCount + b.vertexCount := by
  simp only [Whole, vertexCount, vertices_append, List.length_append] at *
  omega

/-- The next index is the number of vertices where that is a 32-bit word. -/
theorem toNat_nextIndex (h : a.vertexCount < 2 ^ 32) : a.nextIndex.toNat = a.vertexCount :=
  UInt32.toNat_ofNatClamp_of_lt h

/-- A shifted index lies as far on as there are vertices in front. -/
theorem toNat_add_nextIndex {i : UInt32} (h : a.vertexCount + i.toNat < 2 ^ 32) :
    (i + a.nextIndex).toNat = a.vertexCount + i.toNat := by
  rw [UInt32.toNat_add, toNat_nextIndex (by omega), Nat.add_comm, Nat.mod_eq_of_lt h]

/-- After two meshes the next index lies as far on as after each of them. -/
theorem Whole.nextIndex_append (ha : a.Whole) (h : a.vertexCount + b.vertexCount < 2 ^ 32) :
    (a ++ b).nextIndex = a.nextIndex + b.nextIndex := by
  have hcount := ha.vertexCount_append b
  apply UInt32.toNat.inj
  rw [UInt32.toNat_add, toNat_nextIndex (by omega), toNat_nextIndex (by omega),
    toNat_nextIndex (by omega), hcount, Nat.mod_eq_of_lt h]

@[simp] theorem nextIndex_empty : (empty : Mesh α).nextIndex = 0 := by
  rw [nextIndex, vertexCount_empty]
  rfl

/-- A mesh joined to nothing is left as it is. -/
theorem empty_append (m : Mesh α) : empty ++ m = m := by
  obtain ⟨vertices, normals, indices⟩ := m
  have hindices : indices.map (· + (0 : UInt32)) = indices := by simp
  change Mesh.mk _ _ ([] ++ indices.map (· + (empty : Mesh α).nextIndex)) = _
  rw [nextIndex_empty, hindices]
  rfl

/-- Nothing joined to a mesh leaves it as it is. -/
theorem append_empty (m : Mesh α) : m ++ empty = m := by
  obtain ⟨vertices, normals, indices⟩ := m
  change Mesh.mk (vertices ++ []) (normals ++ []) (indices ++ []) = _
  simp only [List.append_nil]

/-- It does not matter which two of three meshes are joined first. -/
theorem Whole.append_assoc (ha : a.Whole) (h : a.vertexCount + b.vertexCount < 2 ^ 32) :
    a ++ b ++ c = a ++ (b ++ c) := by
  have hindices : c.indices.map (· + (a ++ b).nextIndex) =
      (c.indices.map (· + b.nextIndex)).map (· + a.nextIndex) := by
    rw [ha.nextIndex_append h, List.map_map]
    apply List.map_congr_left
    intro i _
    rw [Function.comp_apply, UInt32.add_assoc, UInt32.add_comm a.nextIndex]
  change Mesh.mk _ _ _ = Mesh.mk _ _ _
  rw [indices_append, indices_append, hindices]
  simp only [vertices_append, normals_append, List.map_append, List.append_assoc]

@[simp] theorem join_nil : join ([] : List (Mesh α)) = empty := rfl

/-- Joining ends with the last mesh. -/
theorem join_append_singleton (ms : List (Mesh α)) (m : Mesh α) :
    join (ms ++ [m]) = join ms ++ m := by
  rw [join, List.foldl_append]
  rfl

@[simp] theorem join_singleton (m : Mesh α) : join [m] = m := empty_append m

/-- Complete vertices remain complete in the joint mesh. -/
theorem whole_join {ms : List (Mesh α)} (h : ∀ m ∈ ms, m.Whole) : (join ms).Whole := by
  induction ms using List.reverseRecOn with
  | nil => exact whole_empty
  | append_singleton ms m ih =>
    rw [join_append_singleton]
    exact (ih fun m hm => h m (by simp [hm])).append (h m (by simp))

/-- The joint mesh has all the vertices. -/
theorem vertexCount_join {ms : List (Mesh α)} (h : ∀ m ∈ ms, m.Whole) :
    (join ms).vertexCount = vertexTotal ms := by
  induction ms using List.reverseRecOn with
  | nil => exact vertexCount_empty
  | append_singleton ms m ih =>
    have hms : ∀ m ∈ ms, m.Whole := fun m hm => h m (by simp [hm])
    rw [join_append_singleton, (whole_join hms).vertexCount_append, ih hms]
    simp

/-- Joining two lists at once is joining each of them first. -/
theorem join_append {ms ns : List (Mesh α)} (hms : ∀ m ∈ ms, m.Whole) (hns : ∀ m ∈ ns, m.Whole)
    (h : vertexTotal (ms ++ ns) < 2 ^ 32) : join (ms ++ ns) = join ms ++ join ns := by
  induction ns using List.reverseRecOn with
  | nil => rw [List.append_nil, join_nil, append_empty]
  | append_singleton ns m ih =>
    have hns' : ∀ m ∈ ns, m.Whole := fun m hm => hns m (by simp [hm])
    simp only [vertexTotal_append, vertexTotal_singleton] at h
    have hsum : vertexTotal (ms ++ ns) < 2 ^ 32 := by
      rw [vertexTotal_append]
      omega
    have hcounts : (join ms).vertexCount + (join ns).vertexCount < 2 ^ 32 := by
      rw [vertexCount_join hms, vertexCount_join hns']
      omega
    rw [← List.append_assoc, join_append_singleton, ih hns' hsum, join_append_singleton,
      (whole_join hms).append_assoc hcounts]

/-- Joining a list to a mesh one by one is joining the list first. -/
theorem foldl_append_eq {m : Mesh α} (hm : m.Whole) {ms : List (Mesh α)}
    (hms : ∀ m ∈ ms, m.Whole) (h : m.vertexCount + vertexTotal ms < 2 ^ 32) :
    ms.foldl append m = m ++ join ms := by
  have hone : ∀ x ∈ [m], x.Whole := List.forall_mem_singleton.mpr hm
  have hsum : vertexTotal ([m] ++ ms) < 2 ^ 32 := by rwa [vertexTotal_append, vertexTotal_singleton]
  calc ms.foldl append m = ms.foldl append (empty ++ m) := by rw [empty_append]
    _ = join ([m] ++ ms) := rfl
    _ = m ++ join ms := by rw [join_append hone hms hsum, join_singleton]

end Mesh

end Shipwright
