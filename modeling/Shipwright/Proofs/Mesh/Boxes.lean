import Shipwright.Proofs.Mesh.Geometry
import Shipwright.Proofs.Mesh.Shapes

/-!
# Boxes written in place

A box is written into a mesh face by face, with indices that go on from the vertices at hand. It
may as well be made on its own, with indices from zero, and be joined to the mesh afterwards: on
both ways the same vertices lie in front of a face, and they are told by a word as long as they can
be counted. The faces that point inward are those that point outward, seen from behind.
-/

namespace Shipwright

/-- A vertex seen from behind. -/
def Corner.flip {α : Type} [Scalar α] (c : Corner α) : Corner α := ⟨c.position, -c.normal⟩

namespace Mesh

variable {α : Type}

/-- A mesh of vertices is joined by appending these, and its triangles shifted. -/
theorem append_ofCorners (m : Mesh α) (cs : List (Corner α)) (ts : List Triangle) :
    m ++ ofCorners cs ts =
      (m.addCorners cs).addTriangles (ts.map (Facet.map (· + m.nextIndex))) := by
  have hindices : (ts.flatMap Triangle.toList).map (· + m.nextIndex) =
      (ts.map (Facet.map (· + m.nextIndex))).flatMap Triangle.toList := by
    rw [List.map_flatMap, List.flatMap_map]
    rfl
  change Mesh.mk _ _ (m.indices ++ (ts.flatMap Triangle.toList).map (· + m.nextIndex)) = _
  rw [hindices]
  rfl

/-- Appended triangles follow those that are there. -/
theorem triangles_addTriangles {m : Mesh α} (hm : 3 ∣ m.indices.length) (ts : List Triangle) :
    (m.addTriangles ts).triangles = m.triangles ++ ts :=
  (Triangle.ofIndices_append hm _).trans
    (congrArg (m.triangles ++ ·) (Triangle.ofIndices_flatMap_toList ts))

section InPlace

variable [Scalar α]

/-- A face as a mesh of its own. -/
def quad (facing : Facing) (q : Quad α) : Mesh α := addQuad facing empty q

theorem whole_quad (facing : Facing) (q : Quad α) : (quad facing q).Whole := whole_ofCorners

/-- A face is written in place as it would be joined. -/
theorem addQuad_eq_append (facing : Facing) (m : Mesh α) (q : Quad α) :
    addQuad facing m q = m ++ quad facing q := by
  cases facing <;>
    · unfold quad addQuad
      rw [← ofCorners, append_ofCorners]
      simp [Facet.map, UInt32.add_comm]

/-- Faces are written in place one by one as they would be joined. -/
theorem foldl_addQuad_eq_foldl_append (facing : Facing) (m : Mesh α) (qs : List (Quad α)) :
    qs.foldl (addQuad facing) m = (qs.map (quad facing)).foldl append m := by
  rw [List.foldl_map]
  exact congrArg (qs.foldl · m) (funext₂ (addQuad_eq_append facing))

/-- A box has its six faces joined. -/
theorem box_eq_join (center half : Vec3 α) (facing : Facing) :
    box center half facing =
      join ((boxQuads (center - half) (center + half)).map (quad facing)) :=
  foldl_addQuad_eq_foldl_append facing empty _

/-- The faces of a box have twenty-four vertices together. -/
theorem vertexTotal_quads (facing : Facing) (low high : Vec3 α) :
    vertexTotal ((boxQuads low high).map (quad facing)) = 24 := by
  simp [vertexTotal, boxQuads, quad, vertexCount_addQuad]

variable (center half : Vec3 α) (facing : Facing)

theorem whole_box : (box center half facing).Whole := by
  rw [box_eq_join]
  exact whole_join (List.forall_mem_map.mpr fun q _ => whole_quad facing q)

/-- A box is written in place as it would be joined. -/
theorem appendBox_eq_append {m : Mesh α} (hm : m.Whole) (h : m.vertexCount + 24 < 2 ^ 32) :
    m.appendBox center half facing = m ++ box center half facing := by
  have hwhole : ∀ x ∈ (boxQuads (center - half) (center + half)).map (quad facing), x.Whole :=
    List.forall_mem_map.mpr fun q _ => whole_quad facing q
  have hfit : m.vertexCount +
      vertexTotal ((boxQuads (center - half) (center + half)).map (quad facing)) < 2 ^ 32 := by
    rwa [vertexTotal_quads]
  rw [appendBox, foldl_addQuad_eq_foldl_append, foldl_append_eq hm hwhole hfit, box_eq_join]

end InPlace

section InsideOut

variable [Scalar α] {m : Mesh α}

/-- A mesh seen from behind: every part of a normal is negated, and every triangle turned over. -/
def insideOut (m : Mesh α) : Mesh α :=
  ⟨m.vertices, m.normals.map (- ·), (m.triangles.map Facet.turn).flatMap Triangle.toList⟩

/-- What is appended to a mesh is seen from behind as well. -/
theorem insideOut_addTriangles_addCorners (hm : 3 ∣ m.indices.length) (cs : List (Corner α))
    (ts : List Triangle) :
    ((m.addCorners cs).addTriangles ts).insideOut =
      (m.insideOut.addCorners (cs.map Corner.flip)).addTriangles (ts.map Facet.turn) := by
  have hnormals : (m.normals ++ cs.flatMap (·.normal.toList)).map (- ·) =
      m.normals.map (- ·) ++ (cs.map Corner.flip).flatMap (·.normal.toList) := by
    rw [List.map_append, List.map_flatMap, List.flatMap_map]
    rfl
  have hvertices : cs.flatMap (·.position.toList) =
      (cs.map Corner.flip).flatMap (·.position.toList) := by
    rw [List.flatMap_map]
    rfl
  unfold insideOut
  rw [triangles_addTriangles (m := m.addCorners cs) hm, List.map_append, List.flatMap_append]
  simp only [addTriangles, addCorners, hnormals, hvertices]
  rfl

/-- A face that points inward is one that points outward, seen from behind. -/
theorem addQuad_insideOut (hm : 3 ∣ m.indices.length) (q : Quad α) :
    addQuad .inward m.insideOut q = (addQuad .outward m q).insideOut := by
  unfold addQuad
  rw [insideOut_addTriangles_addCorners hm, List.map_map]
  rfl

/-- Faces that point inward are those that point outward, seen from behind. -/
theorem foldl_addQuad_insideOut (hm : 3 ∣ m.indices.length) (qs : List (Quad α)) :
    qs.foldl (addQuad .inward) m.insideOut = (qs.foldl (addQuad .outward) m).insideOut := by
  induction qs generalizing m with
  | nil => rfl
  | cons q qs ih =>
    have hq : 3 ∣ (addQuad .outward m q).indices.length := by
      rw [addQuad, addTriangles, List.length_append, length_flatMap_const Triangle.length_toList]
      exact Nat.dvd_add hm (Nat.dvd_mul_right ..)
    rw [List.foldl_cons, List.foldl_cons, addQuad_insideOut hm, ih hq]

end InsideOut

/-- A box to be put somewhere. -/
structure Crate (α : Type) where
  /-- Its middle. -/
  center : Vec3 α
  /-- How far it extends from there along each axis. -/
  half : Vec3 α
  /-- Which way its faces point. -/
  facing : Facing

/-- The box on its own. -/
def Crate.mesh [Scalar α] (c : Crate α) : Mesh α := box c.center c.half c.facing

/-- The mesh with the box appended. -/
def Crate.addTo [Scalar α] (m : Mesh α) (c : Crate α) : Mesh α :=
  m.appendBox c.center c.half c.facing

section Crates

variable [Scalar α]

/-- Boxes are written in place one by one as they would be joined. -/
theorem foldl_addTo_eq_append {m : Mesh α} {cs : List (Crate α)} (hm : m.Whole)
    (h : m.vertexCount + 24 * cs.length < 2 ^ 32) :
    cs.foldl Crate.addTo m = m ++ join (cs.map Crate.mesh) := by
  induction cs using List.reverseRecOn with
  | nil => exact (append_empty m).symm
  | append_singleton cs c ih =>
    rw [List.length_append, List.length_singleton] at h
    have hwhole : ∀ x ∈ cs.map Crate.mesh, x.Whole :=
      List.forall_mem_map.mpr fun c _ => whole_box ..
    have hbox : ∀ c : Crate α, c.mesh.vertexCount = 24 := fun c => vertexCount_box ..
    have hjoin : (join (cs.map Crate.mesh)).vertexCount = 24 * cs.length := by
      rw [vertexCount_join hwhole, vertexTotal_map_of_const hbox]
    have hcount := hm.vertexCount_append (join (cs.map Crate.mesh))
    calc (cs ++ [c]).foldl Crate.addTo m
        = (m ++ join (cs.map Crate.mesh)).appendBox c.center c.half c.facing := by
          rw [List.foldl_concat, ih (by omega)]
          rfl
      _ = m ++ join (cs.map Crate.mesh) ++ c.mesh :=
          appendBox_eq_append _ _ _ (hm.append (whole_join hwhole)) (by omega)
      _ = m ++ (join (cs.map Crate.mesh) ++ c.mesh) := hm.append_assoc (by omega)
      _ = m ++ join ((cs ++ [c]).map Crate.mesh) := by
          rw [List.map_append, List.map_singleton, join_append_singleton]

/-- A box whose faces point inward is the one whose faces point outward, seen from behind. -/
theorem box_inward (center half : Vec3 α) :
    box center half .inward = (box center half .outward).insideOut :=
  foldl_addQuad_insideOut (m := empty) (Nat.dvd_zero 3) _

end Crates

/-- Boxes that are written into a mesh one after the other are the mesh and all boxes joined, as
long as their vertices can be counted. Each has twenty-four vertices and twelve triangles, whichever
way it faces. A box that faces inward has the vertices of the one that faces outward, with every
part of the normals negated and the last two corners of each triangle exchanged. -/
theorem boxes_in_place [Scalar α] :
    (∀ (m : Mesh α) (cs : List (Crate α)), m.Whole → m.vertexCount + 24 * cs.length < 2 ^ 32 →
      cs.foldl Crate.addTo m = m ++ join (cs.map Crate.mesh)) ∧
    (∀ (center half : Vec3 α) (facing : Facing),
      (box center half facing).vertexCount = 24 ∧ (box center half facing).triangleCount = 12) ∧
    ∀ center half : Vec3 α, box center half .inward = (box center half .outward).insideOut :=
  ⟨fun _ _ => foldl_addTo_eq_append,
    fun center half facing => ⟨vertexCount_box facing center half, triangleCount_box ..⟩,
    box_inward⟩

/-- A crate and a room written into a mesh of one vertex are joined to it as they are; the crate has
its twenty-four vertices. -/
theorem boxes_in_place_crateAndRoom :
    let m : Mesh Single := ofCorners [⟨.unitX, .unitY⟩] [(0, 0, 0)]
    let cs : List (Crate Single) := [⟨.zero, .unitX, .outward⟩, ⟨.unitZ, .splat 0.5, .inward⟩]
    m.Whole ∧ m.vertexCount + 24 * cs.length < 2 ^ 32 ∧
      cs.foldl Crate.addTo m = m ++ join (cs.map Crate.mesh) ∧
      (box (.zero : Vec3 Single) .unitX .outward).vertexCount = 24 := by
  intro m cs
  have hcount : m.vertexCount + 24 * cs.length < 2 ^ 32 := by decide
  exact ⟨whole_ofCorners, hcount, boxes_in_place.1 m cs whole_ofCorners hcount,
    (boxes_in_place.2.1 .zero .unitX .outward).1⟩

end Mesh

end Shipwright
