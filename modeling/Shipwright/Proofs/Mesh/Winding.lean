import Mathlib.Tactic.Linarith
import Mathlib.Tactic.Ring
import Shipwright.Proofs.Exact
import Shipwright.Proofs.Mesh.Boxes

/-!
# Which way the faces of a box point

In exact arithmetic the faces of a box are parallelograms over its corners. The corners of a face go
counterclockwise about the normal stored with them, and that points away from everything inside. A
room is such a box seen from behind: the triangles are turned over where the normals are negated, so
its walls are counterclockwise about normals that point to the middle. The bounds are to differ
along each axis, since a flat box has no inside.
-/

namespace Shipwright

attribute [ext] Vec3

section Shown

variable {α : Type} [Scalar α]

/-- The three corners of a triangle. -/
def Facet.corners (t : Facet (Corner α)) : List (Corner α) := [t.1, t.2.1, t.2.2]

/-- The product of the sides at the first corner of a triangle. It points to where the corners are
seen to go counterclockwise. -/
def Facet.across (t : Facet (Corner α)) : Vec3 α :=
  (t.2.1.position - t.1.position).cross (t.2.2.position - t.1.position)

/-- The way that a face at some point has ahead of it: away from the middle, or towards it. -/
def Facing.ahead (facing : Facing) (center p : Vec3 α) : Vec3 α :=
  match facing with
  | .outward => p - center
  | .inward => center - p

/-- A point is a corner of the box between two points. -/
def Vec3.IsCornerOf (p low high : Vec3 α) : Prop :=
  (p.x = low.x ∨ p.x = high.x) ∧ (p.y = low.y ∨ p.y = high.y) ∧ (p.z = low.z ∨ p.z = high.z)

/-- A triangle seen from behind. -/
def Facet.behind (t : Facet (Corner α)) : Facet (Corner α) := (t.map Corner.flip).turn

/-- The corners of a triangle are the same from behind. -/
theorem Facet.mem_corners_behind {t : Facet (Corner α)} {c : Corner α} :
    c ∈ t.behind.corners ↔ ∃ d ∈ t.corners, Corner.flip d = c := by
  simp only [behind, turn, map, corners, List.mem_cons, List.not_mem_nil, or_false,
    exists_eq_or_imp, exists_eq_left, eq_comm (a := c)]
  tauto

namespace Mesh

variable {m : Mesh α}

/-- A mesh shows triangles if these are what a renderer finds in it, in order. -/
def Shows (m : Mesh α) (ts : List (Facet (Corner α))) : Prop := m.faces = ts.map (Facet.map some)

/-- From behind the same vertices are found, with their normals negated. -/
theorem corner?_insideOut (m : Mesh α) (i : UInt32) :
    m.insideOut.corner? i = (m.corner? i).map Corner.flip := by
  have hnormal : m.insideOut.normal? i.toNat =
      (m.normal? i.toNat).map fun v => ⟨-v.x, -v.y, -v.z⟩ := vectorAt?_map (- ·) m.normals i.toNat
  have hposition : m.insideOut.position? i.toNat = m.position? i.toNat := rfl
  rw [corner?, corner?, hnormal, hposition]
  cases m.position? i.toNat <;> cases m.normal? i.toNat <;> rfl

/-- A mesh seen from behind shows its triangles from behind. -/
theorem Shows.insideOut {ts : List (Facet (Corner α))} (h : m.Shows ts) :
    m.insideOut.Shows (ts.map Facet.behind) := by
  have htriangles : m.insideOut.triangles = m.triangles.map Facet.turn :=
    Triangle.ofIndices_flatMap_toList _
  have hcorners : Facet.map m.insideOut.corner? ∘ Facet.turn =
      (Facet.turn ∘ Facet.map (Option.map Corner.flip)) ∘ Facet.map m.corner? := by
    funext t
    simp only [Function.comp_apply, Facet.map, Facet.turn, corner?_insideOut]
  calc m.insideOut.faces
      = m.faces.map (Facet.turn ∘ Facet.map (Option.map Corner.flip)) := by
        rw [faces, htriangles, List.map_map, hcorners, ← List.map_map, ← faces]
    _ = (ts.map Facet.behind).map (Facet.map some) := by
        rw [h, List.map_map, List.map_map]
        rfl

/-- The two triangles of a face, with the normal of its outer side. -/
def Quad.facets (q : Quad α) : List (Facet (Corner α)) :=
  match q.corners.map (Corner.mk · q.normal) with
  | [a, b, c, d] => [(a, b, c), (a, c, d)]
  | _ => []

/-- A face that points outward shows its two triangles. -/
theorem shows_quad {q : Quad α} (h : q.corners.length = 4) : (quad .outward q).Shows q.facets := by
  obtain ⟨corners, normal⟩ := q
  obtain ⟨a, b, c, d, rfl⟩ := List.length_eq_four.mp h
  unfold Shows faces quad addQuad
  rw [← ofCorners, triangles_ofCorners, nextIndex_empty]
  rfl

/-- A box whose faces point outward shows the triangles of its six faces. -/
theorem shows_box (center half : Vec3 α) :
    (box center half .outward).Shows
      ((boxQuads (center - half) (center + half)).flatMap Quad.facets) := by
  have hlength := length_corners_of_mem_boxQuads (center - half) (center + half)
  have hwell : ∀ m ∈ (boxQuads (center - half) (center + half)).map (quad .outward),
      m.WellFormed := by
    refine List.forall_mem_map.mpr fun q hq => ?_
    exact wellFormed_empty.addQuad .outward (hlength q hq) (by rw [vertexCount_empty]; decide)
  have hfit : vertexTotal ((boxQuads (center - half) (center + half)).map (quad .outward)) <
      2 ^ 32 := by
    rw [vertexTotal_quads]
    decide
  rw [Shows, box_eq_join, faces_join hwell hfit, List.flatMap_map, List.map_flatMap]
  exact List.flatMap_congr fun q hq => shows_quad (hlength q hq)

/-- The corners of a box are the corners of its faces. -/
theorem isCornerOf_iff {low high p : Vec3 α} :
    p.IsCornerOf low high ↔ ∃ q ∈ boxQuads low high, p ∈ q.corners := by
  have hfaces : ∀ q ∈ boxQuads low high, ∀ p ∈ q.corners, p.IsCornerOf low high := by
    simp [boxQuads, Vec3.IsCornerOf]
  constructor
  · obtain ⟨x, y, z⟩ := p
    rintro ⟨rfl | rfl, rfl | rfl, rfl | rfl⟩ <;> simp [boxQuads]
  · rintro ⟨q, hq, hp⟩
    exact hfaces q hq p hp

end Mesh

end Shown

section Exact

attribute [local instance] Scalar.rational

namespace Vec3

theorem add_def (a b : Vec3 ℚ) : a + b = ⟨a.x + b.x, a.y + b.y, a.z + b.z⟩ := rfl

theorem sub_def (a b : Vec3 ℚ) : a - b = ⟨a.x - b.x, a.y - b.y, a.z - b.z⟩ := rfl

theorem neg_def (a : Vec3 ℚ) : -a = ⟨-a.x, -a.y, -a.z⟩ := rfl

/-- A point lies between two others along each axis. -/
def Inside (p low high : Vec3 ℚ) : Prop :=
  (low.x < p.x ∧ p.x < high.x) ∧ (low.y < p.y ∧ p.y < high.y) ∧ (low.z < p.z ∧ p.z < high.z)

/-- In a parallelogram the diagonal spans with either side what the two sides span. -/
theorem cross_diagonal {a b c d : Vec3 ℚ} (h : a + c = b + d) :
    (b - a).cross (c - a) = (b - a).cross (d - a) ∧
      (c - a).cross (d - a) = (b - a).cross (d - a) := by
  obtain ⟨hx, hy, hz⟩ := Vec3.ext_iff.mp h
  simp only [add_def] at hx hy hz
  have hx : c.x = b.x + d.x - a.x := by linarith
  have hy : c.y = b.y + d.y - a.y := by linarith
  have hz : c.z = b.z + d.z - a.z := by linarith
  constructor <;> ext <;> simp only [cross, sub_def, hx, hy, hz] <;> ring

/-- The factors of a vector product are exchanged at the price of its sign. -/
theorem cross_swap (a b : Vec3 ℚ) : b.cross a = -a.cross b := by
  ext <;> simp only [cross, neg_def] <;> ring

theorem neg_scale (a : Vec3 ℚ) (k : ℚ) : -a.scale k = (-a).scale k := by
  simp only [scale, neg_def, neg_mul]

/-- The product with a difference is the same where both sides are reversed. -/
theorem dot_sub_swap (n a b : Vec3 ℚ) : n.dot (a - b) = (-n).dot (b - a) := by
  simp only [dot, sub_def, neg_def]
  ring

end Vec3

namespace Mesh

/-- A face is a parallelogram whose corners go counterclockwise about its normal. -/
def Quad.Wound (q : Quad ℚ) : Prop :=
  ∃ a b c d, q.corners = [a, b, c, d] ∧ a + c = b + d ∧
    ∃ k, 0 < k ∧ (b - a).cross (d - a) = q.normal.scale k

variable {low high center : Vec3 ℚ}

/-- The faces of a box with some volume are counterclockwise about their normals. Two lie across
each axis, and the product of their sides is the normal times their area. -/
theorem wound_of_mem_boxQuads (hx : low.x < high.x) (hy : low.y < high.y) (hz : low.z < high.z) :
    ∀ q ∈ boxQuads low high, q.Wound := by
  have hxy : 0 < (high.x - low.x) * (high.y - low.y) := mul_pos (sub_pos.mpr hx) (sub_pos.mpr hy)
  have hyz : 0 < (high.y - low.y) * (high.z - low.z) := mul_pos (sub_pos.mpr hy) (sub_pos.mpr hz)
  have hzx : 0 < (high.z - low.z) * (high.x - low.x) := mul_pos (sub_pos.mpr hz) (sub_pos.mpr hx)
  simp only [boxQuads, List.forall_mem_cons]
  refine ⟨⟨_, _, _, _, rfl, ?_, _, hxy, ?_⟩, ⟨_, _, _, _, rfl, ?_, _, hxy, ?_⟩,
    ⟨_, _, _, _, rfl, ?_, _, hyz, ?_⟩, ⟨_, _, _, _, rfl, ?_, _, hyz, ?_⟩,
    ⟨_, _, _, _, rfl, ?_, _, hzx, ?_⟩, ⟨_, _, _, _, rfl, ?_, _, hzx, ?_⟩, List.forall_mem_nil _⟩
  all_goals
    ext <;> simp only [Vec3.add_def, Vec3.sub_def, Vec3.cross, Vec3.scale, Scalar.zero_literal,
      Scalar.one_literal] <;> ring

/-- The normals of a box point away from all that is inside. -/
theorem dot_normal_pos (h : center.Inside low high) :
    ∀ q ∈ boxQuads low high, ∀ p ∈ q.corners, 0 < q.normal.dot (p - center) := by
  obtain ⟨⟨hx, hx'⟩, ⟨hy, hy'⟩, hz, hz'⟩ := h
  norm_num [boxQuads, Vec3.dot, Vec3.sub_def]
  exact ⟨hz', hz, hx', hx, hy', hy⟩

/-- Triangles over the corners of a box. They are wound about the normals stored at their corners,
and these point away from the middle of the box or towards it. -/
structure BoxFaces (low high : Vec3 ℚ) (facing : Facing) (ts : List (Facet (Corner ℚ))) : Prop where
  /-- There are twelve triangles. -/
  count : ts.length = 12
  /-- Their corners are those of the box. -/
  corners : ∀ p : Vec3 ℚ, p.IsCornerOf low high ↔ ∃ t ∈ ts, ∃ c ∈ t.corners, c.position = p
  /-- They are counterclockwise about the normal at each corner. -/
  wound : ∀ t ∈ ts, ∀ c ∈ t.corners, ∃ k, 0 < k ∧ t.across = c.normal.scale k
  /-- The normal at each corner points the way that the faces do. -/
  ahead : ∀ t ∈ ts, ∀ c ∈ t.corners,
    0 < c.normal.dot (facing.ahead ((low + high).scale 0.5) c.position)

/-- Every corner of a face is one of a triangle. -/
theorem Quad.Wound.exists_mem_facets {q : Quad ℚ} (h : q.Wound) {p : Vec3 ℚ} (hp : p ∈ q.corners) :
    ∃ t ∈ q.facets, ⟨p, q.normal⟩ ∈ t.corners := by
  obtain ⟨a, b, c, d, hcorners, -⟩ := h
  simp only [Quad.facets, hcorners, List.map_cons, List.map_nil, List.mem_cons, List.not_mem_nil,
    or_false] at hp ⊢
  rcases hp with rfl | rfl | rfl | rfl
  · exact ⟨_, .inl rfl, .head _⟩
  · exact ⟨_, .inl rfl, .tail _ (.head _)⟩
  · exact ⟨_, .inr rfl, .tail _ (.head _)⟩
  · exact ⟨_, .inr rfl, .tail _ (.tail _ (.head _))⟩

/-- The triangles of a face have its corners and its normal, and are counterclockwise about it. -/
theorem Quad.Wound.of_mem_facets {q : Quad ℚ} (h : q.Wound) {t : Facet (Corner ℚ)}
    (ht : t ∈ q.facets) :
    (∃ k, 0 < k ∧ t.across = q.normal.scale k) ∧
      ∀ c ∈ t.corners, c.position ∈ q.corners ∧ c.normal = q.normal := by
  obtain ⟨a, b, c, d, hcorners, hdiagonal, k, hk, hcross⟩ := h
  obtain ⟨hfirst, hsecond⟩ := Vec3.cross_diagonal hdiagonal
  simp only [Quad.facets, hcorners, List.map_cons, List.map_nil, List.mem_cons, List.not_mem_nil,
    or_false] at ht
  rcases ht with rfl | rfl
  · exact ⟨⟨k, hk, hfirst.trans hcross⟩, by simp [Facet.corners, hcorners]⟩
  · exact ⟨⟨k, hk, hsecond.trans hcross⟩, by simp [Facet.corners, hcorners]⟩

/-- The faces of a box that point outward. -/
theorem boxFaces_outward (hx : low.x < high.x) (hy : low.y < high.y) (hz : low.z < high.z) :
    BoxFaces low high .outward ((boxQuads low high).flatMap Quad.facets) := by
  have hwound := wound_of_mem_boxQuads hx hy hz
  have hinside : ((low + high).scale 0.5).Inside low high := by
    simp only [Vec3.Inside, Vec3.scale, Vec3.add_def, Scalar.half_literal]
    refine ⟨⟨?_, ?_⟩, ⟨?_, ?_⟩, ?_, ?_⟩ <;> linarith
  have hpoints := dot_normal_pos hinside
  constructor
  case count => rfl
  case corners =>
    intro p
    rw [isCornerOf_iff]
    constructor
    · rintro ⟨q, hq, hp⟩
      obtain ⟨t, ht, hc⟩ := (hwound q hq).exists_mem_facets hp
      exact ⟨t, List.mem_flatMap.mpr ⟨q, hq, ht⟩, _, hc, rfl⟩
    · rintro ⟨t, ht, c, hc, rfl⟩
      obtain ⟨q, hq, ht⟩ := List.mem_flatMap.mp ht
      exact ⟨q, hq, (((hwound q hq).of_mem_facets ht).2 c hc).1⟩
  case wound =>
    intro t ht c hc
    obtain ⟨q, hq, ht⟩ := List.mem_flatMap.mp ht
    obtain ⟨hacross, hcorners⟩ := (hwound q hq).of_mem_facets ht
    rwa [(hcorners c hc).2]
  case ahead =>
    intro t ht c hc
    obtain ⟨q, hq, ht⟩ := List.mem_flatMap.mp ht
    obtain ⟨hposition, hnormal⟩ := ((hwound q hq).of_mem_facets ht).2 c hc
    rw [hnormal]
    exact hpoints q hq c.position hposition

/-- Faces that point outward point inward where they are seen from behind. -/
theorem BoxFaces.behind {ts : List (Facet (Corner ℚ))} (h : BoxFaces low high .outward ts) :
    BoxFaces low high .inward (ts.map Facet.behind) := by
  constructor
  case count => rw [List.length_map, h.count]
  case corners =>
    intro p
    have hposition : ∀ t : Facet (Corner ℚ),
        (∃ c ∈ t.behind.corners, c.position = p) ↔ ∃ c ∈ t.corners, c.position = p := by
      intro t
      simp only [Facet.mem_corners_behind, exists_exists_and_eq_and]
      rfl
    simp only [h.corners p, List.mem_map, exists_exists_and_eq_and, hposition]
  case wound =>
    refine List.forall_mem_map.mpr fun t ht _ hbehind => ?_
    obtain ⟨c, hc, rfl⟩ := Facet.mem_corners_behind.mp hbehind
    obtain ⟨k, hk, hacross⟩ := h.wound t ht c hc
    refine ⟨k, hk, ?_⟩
    calc t.behind.across = -t.across := Vec3.cross_swap ..
      _ = c.flip.normal.scale k := by rw [hacross, Vec3.neg_scale]; rfl
  case ahead =>
    refine List.forall_mem_map.mpr fun t ht _ hbehind => ?_
    obtain ⟨c, hc, rfl⟩ := Facet.mem_corners_behind.mp hbehind
    calc 0 < c.normal.dot (c.position - (low + high).scale 0.5) := h.ahead t ht c hc
      _ = c.flip.normal.dot ((low + high).scale 0.5 - c.position) := Vec3.dot_sub_swap ..

/-- The box about the middle of two points that extends half their distance lies between them. -/
theorem shows_box_between (low high : Vec3 ℚ) :
    (box ((low + high).scale 0.5) ((high - low).scale 0.5) .outward).Shows
      ((boxQuads low high).flatMap Quad.facets) := by
  have hlow : (low + high).scale 0.5 - (high - low).scale 0.5 = low := by
    ext <;> simp only [Vec3.scale, Vec3.add_def, Vec3.sub_def, Scalar.half_literal] <;> ring
  have hhigh : (low + high).scale 0.5 + (high - low).scale 0.5 = high := by
    ext <;> simp only [Vec3.scale, Vec3.add_def, Vec3.sub_def, Scalar.half_literal] <;> ring
  have hshows := shows_box ((low + high).scale 0.5) ((high - low).scale 0.5)
  rwa [hlow, hhigh] at hshows

/-- In exact arithmetic the walls of a room between two points that differ along each axis are
twelve triangles over the corners between these. Each is counterclockwise about the normals stored
at its corners, and these point to the middle of the room. The faces of the solid box in the same
place are so about normals that point away from it. -/
theorem room_wound_about_normals {low high : Vec3 ℚ} (hx : low.x < high.x) (hy : low.y < high.y)
    (hz : low.z < high.z) :
    (∃ ts, (room low high).Shows ts ∧ BoxFaces low high .inward ts) ∧
    ∃ ts, (box ((low + high).scale 0.5) ((high - low).scale 0.5) .outward).Shows ts ∧
      BoxFaces low high .outward ts := by
  have hshows := shows_box_between low high
  have hfaces := boxFaces_outward hx hy hz
  refine ⟨⟨_, ?_, hfaces.behind⟩, _, hshows, hfaces⟩
  rw [room, box_inward]
  exact hshows.insideOut

/-- A cabin of four by two by two has its walls wound about normals that point inward. -/
theorem room_wound_about_normals_cabin :
    let low : Vec3 ℚ := ⟨-1, -1, -1⟩
    let high : Vec3 ℚ := ⟨3, 1, 1⟩
    (low.x < high.x ∧ low.y < high.y ∧ low.z < high.z) ∧
      (∃ ts, (room low high).Shows ts ∧ BoxFaces low high .inward ts) ∧
      ∃ ts, (box ((low + high).scale 0.5) ((high - low).scale 0.5) .outward).Shows ts ∧
        BoxFaces low high .outward ts := by
  intro low high
  have hx : low.x < high.x := by norm_num [low, high]
  have hy : low.y < high.y := by norm_num [low, high]
  have hz : low.z < high.z := by norm_num [low, high]
  exact ⟨⟨hx, hy, hz⟩, room_wound_about_normals hx hy hz⟩

end Mesh

end Exact

end Shipwright
