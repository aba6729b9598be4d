import Shipwright.Mesh.Box
import Shipwright.Mesh.Loft
import Shipwright.Mesh.Marker
import Shipwright.Mesh.Turret
import Shipwright.Mesh.Wedge
import Shipwright.Proofs.Mesh.WellFormed
import Mathlib.Tactic.Ring

/-!
# The shapes placed on a ship

How many vertices and triangles each shape has, and that each of them is well formed.
None of this depends on the numbers a shape is drawn from: places, radii and scales may
be anything, infinite or no numbers at all. Only a hull can be too fine to be counted.
-/

namespace Shipwright

namespace Mesh

variable {α : Type}

section Markers

variable [Scalar α] (position : Vec3 α) (interior : Bool)

@[simp] theorem vertexCount_marker : (marker position interior).vertexCount = 6 :=
  vertexCount_ofCorners

@[simp] theorem triangleCount_marker : (marker position interior).triangleCount = 8 :=
  triangleCount_ofCorners

/-- The marker of a light is well formed. -/
theorem wellFormed_marker : (marker position interior).WellFormed :=
  wellFormed_ofCorners 6 rfl (by simp [octahedronFaces, Triangle.forall_mem_toList])

end Markers

section Turrets

variable [Trigonometric α] (position direction : Vec3 α) (size : MountSize)

@[simp] theorem length_turretRing (radius lift tilt : α) :
    (Turret.ring position radius lift tilt).length = Turret.sides := by
  simp [Turret.ring]

/-- A mount is made of its two rings and its tip, of its walls and its barrel. -/
theorem exists_turret_eq_ofCorners :
    ∃ cs : List (Corner α), cs.length = 13 ∧
      turret position direction size = ofCorners cs (Turret.walls ++ Turret.barrel 12) := by
  have hlength : ∀ radius lift tilt upper height slope : α,
      (Turret.ring position radius lift tilt ++ Turret.ring position upper height slope).length =
        12 := by
    intros
    rw [List.length_append, length_turretRing, length_turretRing]
    rfl
  simp only [turret, pushVertex_ofCorners, addTriangles_ofCorners, hlength]
  exact ⟨_, by rw [List.length_append, hlength, List.length_singleton], rfl⟩

@[simp] theorem vertexCount_turret : (turret position direction size).vertexCount = 13 := by
  obtain ⟨cs, hcs, hturret⟩ := exists_turret_eq_ofCorners position direction size
  rw [hturret, vertexCount_ofCorners, hcs]

@[simp] theorem triangleCount_turret : (turret position direction size).triangleCount = 18 := by
  obtain ⟨cs, -, hturret⟩ := exists_turret_eq_ofCorners position direction size
  rw [hturret, triangleCount_ofCorners]
  rfl

/-- The mount of a hardpoint is well formed. -/
theorem wellFormed_turret : (turret position direction size).WellFormed := by
  obtain ⟨cs, hcs, hturret⟩ := exists_turret_eq_ofCorners position direction size
  have hbounded : ((Turret.walls ++ Turret.barrel 12).all fun t => t.toList.all (·.toNat < 13)) =
      true := by decide
  rw [hturret]
  exact wellFormed_ofCorners 13 hcs (by
    simpa only [List.all_eq_true, decide_eq_true_eq] using hbounded)

end Turrets

section Wedges

variable [Trigonometric α] (feature : Feature α)

@[simp] theorem vertexCount_wedge : (wedge feature).vertexCount = 6 := vertexCount_ofCorners

@[simp] theorem triangleCount_wedge : (wedge feature).triangleCount = 8 := triangleCount_ofCorners

/-- The wedge of a feature is well formed. -/
theorem wellFormed_wedge : (wedge feature).WellFormed :=
  wellFormed_ofCorners 6 rfl (by simp [wedgeFaces, Triangle.forall_mem_toList])

end Wedges

section Boxes

variable [Scalar α] {m : Mesh α} (facing : Facing)

/-- A quad brings its corners. -/
theorem vertexCount_addQuad (m : Mesh α) (q : Quad α) :
    (addQuad facing m q).vertexCount = m.vertexCount + q.corners.length := by
  unfold addQuad
  rw [vertexCount_addTriangles_addCorners, List.length_map]

/-- A quad brings two triangles. -/
theorem triangleCount_addQuad (m : Mesh α) (q : Quad α) :
    (addQuad facing m q).triangleCount = m.triangleCount + 2 := by
  unfold addQuad
  rw [triangleCount_addTriangles_addCorners]
  cases facing <;> rfl

/-- A quad over four new corners keeps a mesh well formed. -/
theorem WellFormed.addQuad {q : Quad α} (hm : m.WellFormed) (hq : q.corners.length = 4)
    (h : m.vertexCount + 4 ≤ 2 ^ 32) : (addQuad facing m q).WellFormed := by
  have hbase : m.nextIndex.toNat = m.vertexCount := toNat_nextIndex (by omega)
  have hcorner : ∀ k : UInt32, k.toNat < 4 → (m.nextIndex + k).toNat < m.vertexCount + 4 := by
    intro k hk
    rw [UInt32.toNat_add, hbase, Nat.mod_eq_of_lt (by omega)]
    omega
  have hfirst : m.nextIndex.toNat < m.vertexCount + 4 := by omega
  have hsecond := hcorner 1 (by decide)
  have hthird := hcorner 2 (by decide)
  have hfourth := hcorner 3 (by decide)
  refine hm.addTriangles_addCorners ?_
  rw [List.length_map, hq]
  cases facing with
  | outward =>
    simp only [List.forall_mem_cons, Triangle.forall_mem_toList]
    exact ⟨⟨hfirst, hsecond, hthird⟩, ⟨hfirst, hthird, hfourth⟩, fun _ h => nomatch h⟩
  | inward =>
    simp only [List.forall_mem_cons, Triangle.forall_mem_toList]
    exact ⟨⟨hfirst, hthird, hsecond⟩, ⟨hfirst, hfourth, hthird⟩, fun _ h => nomatch h⟩

/-- Quads are counted one by one. -/
theorem counts_foldl_addQuad {qs : List (Quad α)} (hqs : ∀ q ∈ qs, q.corners.length = 4)
    (m : Mesh α) :
    (qs.foldl (Mesh.addQuad facing) m).vertexCount = m.vertexCount + 4 * qs.length ∧
    (qs.foldl (Mesh.addQuad facing) m).triangleCount = m.triangleCount + 2 * qs.length := by
  induction qs generalizing m with
  | nil => exact ⟨rfl, rfl⟩
  | cons q qs ih =>
    obtain ⟨hq, hqs⟩ := List.forall_mem_cons.mp hqs
    obtain ⟨hvertices, htriangles⟩ := ih hqs (Mesh.addQuad facing m q)
    rw [vertexCount_addQuad, hq] at hvertices
    rw [triangleCount_addQuad] at htriangles
    rw [List.foldl_cons, List.length_cons]
    omega

/-- Quads over new corners keep a mesh well formed as long as the corners can be counted. -/
theorem WellFormed.foldl_addQuad {qs : List (Quad α)} (hm : m.WellFormed)
    (hqs : ∀ q ∈ qs, q.corners.length = 4) (h : m.vertexCount + 4 * qs.length ≤ 2 ^ 32) :
    (qs.foldl (Mesh.addQuad facing) m).WellFormed := by
  induction qs generalizing m with
  | nil => exact hm
  | cons q qs ih =>
    obtain ⟨hq, hqs⟩ := List.forall_mem_cons.mp hqs
    have hcount := vertexCount_addQuad facing m q
    rw [hq] at hcount
    rw [List.length_cons] at h
    exact ih (hm.addQuad facing hq (by omega)) hqs (by omega)

/-- The faces of a box have four corners each. -/
theorem length_corners_of_mem_boxQuads (low high : Vec3 α) :
    ∀ q ∈ boxQuads low high, q.corners.length = 4 := by
  simp [boxQuads]

variable (center half low high : Vec3 α)

/-- A box brings twenty-four vertices and twelve triangles. -/
theorem counts_appendBox (m : Mesh α) :
    (m.appendBox center half facing).vertexCount = m.vertexCount + 24 ∧
    (m.appendBox center half facing).triangleCount = m.triangleCount + 12 :=
  counts_foldl_addQuad facing (length_corners_of_mem_boxQuads (center - half) (center + half)) m

/-- A box keeps a mesh well formed as long as its corners can be counted. -/
theorem WellFormed.appendBox (hm : m.WellFormed) (h : m.vertexCount + 24 ≤ 2 ^ 32) :
    (m.appendBox center half facing).WellFormed :=
  hm.foldl_addQuad facing (length_corners_of_mem_boxQuads (center - half) (center + half)) h

@[simp] theorem vertexCount_box : (box center half facing).vertexCount = 24 := by
  rw [box, (counts_appendBox ..).1, vertexCount_empty]

@[simp] theorem triangleCount_box : (box center half facing).triangleCount = 12 := by
  rw [box, (counts_appendBox ..).2, triangleCount_empty]

@[simp] theorem vertexCount_room : (room low high).vertexCount = 24 := vertexCount_box ..

@[simp] theorem triangleCount_room : (room low high).triangleCount = 12 := triangleCount_box ..

/-- The walls of a room are well formed. -/
theorem wellFormed_room : (room low high).WellFormed := by
  have hfit : (empty : Mesh α).vertexCount + 24 ≤ 2 ^ 32 := by
    rw [vertexCount_empty]
    decide
  unfold room box
  exact wellFormed_empty.appendBox .inward _ _ hfit

end Boxes

section Lofts

/-- The vertices of the first rings are the first vertices. -/
theorem Loft.place_lt {ring rings s segments : Nat} (hring : ring < rings) (hs : s < segments) :
    ring * segments + s < rings * segments :=
  calc ring * segments + s < ring * segments + segments := Nat.add_lt_add_left hs _
    _ = (ring + 1) * segments := (Nat.succ_mul ring segments).symm
    _ ≤ rings * segments := Nat.mul_le_mul_right segments hring

/-- A face has its corners below a bound if their numbers are, and words can count up to there. -/
theorem Loft.bounded_face {count a b c : Nat} (hcount : count ≤ 2 ^ 32) (ha : a < count)
    (hb : b < count) (hc : c < count) : ∀ i ∈ (face a b c).toList, i.toNat < count := by
  have hword : ∀ n < count, n.toUInt32.toNat < count := by
    intro n hn
    rwa [Nat.toUInt32_eq, UInt32.toNat_ofNat_of_lt' (Nat.lt_of_lt_of_le hn hcount)]
  exact (Triangle.forall_mem_toList _).mpr ⟨hword a ha, hword b hb, hword c hc⟩

/-- The triangles of a hull by the middle vertices of its ends: walls first, then the front and the
back. -/
def Loft.trianglesAbout (segments rings : Nat) (front back : UInt32) : List Triangle :=
  (List.range (rings - 1)).flatMap (wall segments) ++ frontFan segments front ++
    backFan segments rings back

/-- The triangles of a hull whose middle vertices come behind those of its rings. -/
def Loft.triangles (segments rings : Nat) : List Triangle :=
  trianglesAbout segments rings (rings * segments).toUInt32 (rings * segments + 1).toUInt32

/-- As long as the vertices of a hull can be counted, its middle vertices have their numbers for
indices. -/
theorem Loft.trianglesAbout_ofNatClamp {segments rings : Nat}
    (hcount : rings * segments + 2 ≤ 2 ^ 32) :
    trianglesAbout segments rings (.ofNatClamp (rings * segments))
      (.ofNatClamp (rings * segments + 1)) = triangles segments rings := by
  have hword : ∀ n < 2 ^ 32, UInt32.ofNatClamp n = n.toUInt32 := by
    intro n hn
    apply UInt32.toNat.inj
    rw [UInt32.toNat_ofNatClamp_of_lt hn, Nat.toUInt32_eq, UInt32.toNat_ofNat_of_lt' hn]
  rw [triangles, hword _ (by omega), hword _ (by omega)]

/-- The faces of a hull are over its rings and the two middle vertices of its ends. -/
theorem Loft.bounded_triangles {segments rings : Nat} (hrings : 0 < rings)
    (hcount : rings * segments + 2 ≤ 2 ^ 32) :
    ∀ t ∈ triangles segments rings, ∀ i ∈ t.toList, i.toNat < rings * segments + 2 := by
  have hbeside : ∀ s < segments, (s + 1) % segments < segments := fun s hs =>
    Nat.mod_lt _ (by omega)
  have hplace : ∀ {ring s : Nat}, ring < rings → s < segments →
      ring * segments + s < rings * segments + 2 := fun hring hs =>
    Nat.lt_add_right 2 (place_lt hring hs)
  intro t ht
  simp only [triangles, trianglesAbout, List.mem_append, List.mem_flatMap, List.mem_range, wall,
    frontFan, backFan, List.mem_map] at ht
  rcases ht with (⟨ring, hring, s, hs, ht⟩ | ⟨s, hs, rfl⟩) | ⟨s, hs, rfl⟩
  · have hnext : ring + 1 < rings := by omega
    have hhere : ring < rings := by omega
    have hb := hbeside s hs
    rcases List.mem_cons.mp ht with rfl | ht
    · exact bounded_face hcount (hplace hhere hs) (hplace hnext hs) (hplace hhere hb)
    · rw [List.mem_singleton.mp ht]
      exact bounded_face hcount (hplace hhere hb) (hplace hnext hs) (hplace hnext hb)
  · have hfirst : ∀ s < segments, s < rings * segments + 2 := fun s hs => by
      simpa using hplace hrings hs
    exact bounded_face hcount (by omega) (hfirst _ (hbeside s hs)) (hfirst s hs)
  · have hlast : rings - 1 < rings := by omega
    exact bounded_face hcount (by omega) (hplace hlast hs) (hplace hlast (hbeside s hs))

/-- A hull has two triangles for each quad of its walls and one for each side of its ends. -/
theorem Loft.length_trianglesAbout {segments rings : Nat} (hrings : 0 < rings)
    (front back : UInt32) :
    (trianglesAbout segments rings front back).length = 2 * rings * segments := by
  have hwall : ∀ i, (wall segments i).length = 2 * segments := fun i => by
    simp [wall, List.length_flatMap, List.map_const', Nat.mul_comm]
  obtain ⟨gaps, rfl⟩ : ∃ gaps, rings = gaps + 1 := ⟨rings - 1, by omega⟩
  simp only [trianglesAbout, List.length_append, length_flatMap_const hwall, List.length_range,
    frontFan, backFan, List.length_map, Nat.add_sub_cancel]
  ring

variable [Trigonometric α] {points : List (ControlPoint α)} {segments : Nat}

/-- Fewer than two points or three segments give no hull. -/
theorem loft_eq_empty (h : ¬ (2 ≤ points.length ∧ 3 ≤ segments)) :
    loft points segments = empty := by
  have hfew : points.length < 2 ∨ segments < 3 := by omega
  unfold loft
  split
  · exact if_pos hfew
  · rfl

/-- A hull is made of its rings, the middle vertices of its ends, and its faces. The middle vertices
have the indices that they get when they are pushed. -/
theorem exists_loft_eq_ofCorners (h : 2 ≤ points.length ∧ 3 ≤ segments) :
    ∃ cs : List (Corner α), cs.length = points.length * segments + 2 ∧
      loft points segments = ofCorners cs (Loft.trianglesAbout segments points.length
        (.ofNatClamp (points.length * segments))
        (.ofNatClamp (points.length * segments + 1))) := by
  have hne : points ≠ [] := by
    rintro rfl
    simp at h
  have hmany : ¬ (points.length < 2 ∨ segments < 3) := by omega
  have hring : ∀ p : ControlPoint α, (Loft.ring segments p).length = segments := fun p => by
    simp [Loft.ring]
  have hrings : (points.flatMap (Loft.ring segments)).length = points.length * segments := by
    rw [length_flatMap_const hring, Nat.mul_comm]
  simp only [loft, List.head?_eq_some_head hne, List.getLast?_eq_some_getLast hne, hmany, ite_false,
    pushVertex_ofCorners, addTriangles_ofCorners, List.length_append, List.length_singleton, hrings]
  exact ⟨_, by simp only [List.length_append, List.length_singleton, hrings], rfl⟩

/-- The number of vertices of a hull. -/
theorem vertexCount_loft :
    (loft points segments).vertexCount =
      if 2 ≤ points.length ∧ 3 ≤ segments then points.length * segments + 2 else 0 := by
  split
  · rename_i h
    obtain ⟨cs, hcs, hloft⟩ := exists_loft_eq_ofCorners h
    rw [hloft, vertexCount_ofCorners, hcs]
  · rename_i h
    rw [loft_eq_empty h, vertexCount_empty]

/-- The number of triangles of a hull. -/
theorem triangleCount_loft :
    (loft points segments).triangleCount =
      if 2 ≤ points.length ∧ 3 ≤ segments then 2 * points.length * segments else 0 := by
  split
  · rename_i h
    obtain ⟨cs, _, hloft⟩ := exists_loft_eq_ofCorners h
    rw [hloft, triangleCount_ofCorners, Loft.length_trianglesAbout (by omega)]
  · rename_i h
    rw [loft_eq_empty h, triangleCount_empty]

/-- The vertices of a hull are complete, however fine it is. -/
theorem whole_loft : (loft points segments).Whole := by
  by_cases h : 2 ≤ points.length ∧ 3 ≤ segments
  · obtain ⟨cs, _, hloft⟩ := exists_loft_eq_ofCorners h
    rw [hloft]
    exact whole_ofCorners
  · rw [loft_eq_empty h]
    exact whole_empty

/-- A hull is well formed as long as its vertices can be counted. -/
theorem wellFormed_loft (h : (loft points segments).vertexCount < 2 ^ 32) :
    (loft points segments).WellFormed := by
  by_cases hhull : 2 ≤ points.length ∧ 3 ≤ segments
  · obtain ⟨cs, hcs, hloft⟩ := exists_loft_eq_ofCorners hhull
    rw [vertexCount_loft, if_pos hhull] at h
    rw [hloft, Loft.trianglesAbout_ofNatClamp (by omega)]
    exact wellFormed_ofCorners _ hcs (Loft.bounded_triangles (by omega) (by omega))
  · rw [loft_eq_empty hhull]
    exact wellFormed_empty

end Lofts

end Mesh

end Shipwright
