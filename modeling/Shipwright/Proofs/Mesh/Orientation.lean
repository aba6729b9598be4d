import Shipwright.Proofs.Mesh.Geometry
import Shipwright.Proofs.Mesh.Shapes
import Shipwright.Ship.Stage

/-!
# Closed bodies next to each other

The faces of an octahedron and those of a wedge are wound consistently and leave no gap, as their
tables of corners show. Joining keeps the vertices of the parts apart, and so any number of such
bodies makes a mesh in which every side of a triangle is its own and meets its reverse in just one
other triangle. Where the vertices are does not matter: bodies may lie inside each other, be flat or
have coordinates that are no numbers at all.
-/

namespace Shipwright

namespace Mesh

variable {α : Type} {a b m : Mesh α}

/-- Every side of a triangle belongs to this triangle alone, and its reverse to just one. -/
def Oriented (m : Mesh α) : Prop :=
  ∀ t ∈ m.triangles, ∀ d ∈ Facet.sides t, m.sideCount d = 1 ∧ m.sideCount d.swap = 1

/-- A mesh is made of closed bodies, whose triangles are wound consistently. -/
structure Closed (m : Mesh α) : Prop where
  /-- The buffers of the mesh fit each other. -/
  wellFormed : m.WellFormed
  /-- Every triangle has three different corners. -/
  proper : ∀ t ∈ m.triangles, Facet.Proper t
  /-- No side occurs twice, and every side meets its reverse. -/
  wound : Facet.Wound m.triangles

/-- In a mesh of closed bodies there is one triangle on either side of each edge. -/
theorem Closed.oriented (h : m.Closed) : m.Oriented := by
  intro t ht d hd
  have hside : ∀ e, m.sideCount e = (Facet.outline m.triangles).count e := fun e =>
    (Facet.count_outline h.proper e).symm
  have hmem : d ∈ Facet.outline m.triangles := List.mem_flatMap.mpr ⟨t, ht, hd⟩
  rw [hside, hside, h.wound.count_swap]
  exact ⟨List.count_eq_one_of_mem h.wound.nodup hmem, List.count_eq_one_of_mem h.wound.nodup hmem⟩

/-- The mesh without vertices is made of no bodies. -/
theorem closed_empty : (empty : Mesh α).Closed where
  wellFormed := wellFormed_empty
  proper _ ht := nomatch ht
  wound := ⟨List.nodup_nil, fun _ hd => nomatch hd⟩

/-- Closed bodies stay closed next to each other, as joining keeps their vertices apart. -/
theorem Closed.append (ha : a.Closed) (hb : b.Closed)
    (h : a.vertexCount + b.vertexCount < 2 ^ 32) : (a ++ b).Closed := by
  have hinj : Function.Injective (· + a.nextIndex) := fun _ _ => (UInt32.add_left_inj _).mp
  have hover : ∀ t ∈ a.triangles, Facet.Over {i | i.toNat < a.vertexCount} t := fun t ht =>
    ha.wellFormed.lt_of_mem_triangles ht
  have hover' : ∀ t ∈ b.triangles, Facet.Over {i | i.toNat < b.vertexCount} t := fun t ht =>
    hb.wellFormed.lt_of_mem_triangles ht
  have hshifted : ∀ t ∈ b.triangles.map (Facet.map (· + a.nextIndex)),
      Facet.Over {i | a.vertexCount ≤ i.toNat} t := by
    have hshift : ∀ i : UInt32, i.toNat < b.vertexCount →
        a.vertexCount ≤ (i + a.nextIndex).toNat := by
      intro i hi
      rw [toNat_add_nextIndex (by omega)]
      exact Nat.le_add_right _ _
    refine List.forall_mem_map.mpr fun t ht => ?_
    obtain ⟨hfirst, hsecond, hthird⟩ := hover' t ht
    exact ⟨hshift _ hfirst, hshift _ hsecond, hshift _ hthird⟩
  have hapart : ∀ i ∈ {i : UInt32 | i.toNat < a.vertexCount},
      i ∉ {i : UInt32 | a.vertexCount ≤ i.toNat} := fun _ hlt hle => Nat.not_le.mpr hlt hle
  constructor
  case wellFormed => exact ha.wellFormed.append hb.wellFormed h
  case proper =>
    rw [ha.wellFormed.triangles_append]
    refine List.forall_mem_append.mpr ⟨ha.proper, List.forall_mem_map.mpr fun t ht => ?_⟩
    exact (hb.proper t ht).map hinj.injOn (hover' t ht)
  case wound =>
    rw [ha.wellFormed.triangles_append]
    exact ha.wound.append (hb.wound.map hinj.injOn hover') hover hshifted hapart

/-- Any number of closed bodies may be joined, as long as their vertices can be counted. -/
theorem closed_join {ms : List (Mesh α)} (hms : ∀ m ∈ ms, m.Closed)
    (h : vertexTotal ms < 2 ^ 32) : (join ms).Closed := by
  induction ms using List.reverseRecOn with
  | nil => exact closed_empty
  | append_singleton ms m ih =>
    have hbefore : ∀ m ∈ ms, m.Closed := fun m hm => hms m (by simp [hm])
    rw [vertexTotal_append, vertexTotal_singleton] at h
    have hcount := vertexCount_join fun m hm => (hbefore m hm).wellFormed.whole
    rw [join_append_singleton]
    exact (ih hbefore (by omega)).append (hms m (by simp)) (by rwa [hcount])

/-- Triangles over vertices make a closed body if a check of their corners says so. -/
theorem closed_ofCorners {cs : List (Corner α)} {ts : List Triangle}
    (hm : (ofCorners cs ts).WellFormed) (hproper : ∀ t ∈ ts, Facet.Proper t)
    (hnodup : (Facet.outline ts).Nodup)
    (hmet : (Facet.outline ts).all fun d => (Facet.outline ts).contains d.swap) :
    (ofCorners cs ts).Closed := by
  constructor
  case wellFormed => exact hm
  case proper => rwa [triangles_ofCorners]
  case wound =>
    rw [triangles_ofCorners]
    refine ⟨hnodup, fun d hd => ?_⟩
    exact List.contains_iff_mem.mp (List.all_eq_true.mp hmet d hd)

/-- The marker of a light is a closed body. -/
theorem closed_marker [Scalar α] (position : Vec3 α) (interior : Bool) :
    (marker position interior).Closed :=
  closed_ofCorners (wellFormed_marker position interior)
    (by simp [octahedronFaces, Facet.Proper]) (by decide) (by decide)

/-- The wedge of a feature is a closed body. -/
theorem closed_wedge [Trigonometric α] (feature : Feature α) : (wedge feature).Closed :=
  closed_ofCorners (wellFormed_wedge feature)
    (by simp [wedgeFaces, Facet.Proper]) (by decide) (by decide)

/-- A closed body for each entry of a list makes an oriented mesh with the triangles of all. -/
theorem oriented_join_map {τ : Type} {f : τ → Mesh α} {vertices triangles : Nat}
    (hclosed : ∀ x, (f x).Closed) (hvertices : ∀ x, (f x).vertexCount = vertices)
    (htriangles : ∀ x, (f x).triangleCount = triangles) {xs : List τ}
    (h : vertices * xs.length < 2 ^ 32) :
    (join (xs.map f)).triangles.length = triangles * xs.length ∧ (join (xs.map f)).Oriented := by
  have hall : ∀ m ∈ xs.map f, m.Closed := List.forall_mem_map.mpr fun x _ => hclosed x
  rw [← vertexTotal_map_of_const hvertices] at h
  refine ⟨?_, (closed_join hall h).oriented⟩
  rw [length_triangles, triangleCount_join (fun m hm => (hall m hm).wellFormed) h,
    triangleTotal_map_of_const htriangles]

end Mesh

namespace Stage

variable {α : Type} [Trigonometric α]

/-- Whatever lights and features a ship has, the markers of all lights and the wedges of all
features are oriented, as long as their vertices can be counted: every side of a triangle is its
own, and its reverse is a side of just one triangle. There are eight triangles for each light or
feature. -/
theorem oriented_markers_and_wedges (s : Elements α) (n : Node Stage) (inputs : List (Mesh α)) :
    (n.kind = .lightFixture → 6 * s.lights.size < 2 ^ 32 →
      (mesh s n inputs).triangles.length = 8 * s.lights.size ∧ (mesh s n inputs).Oriented) ∧
    (n.kind = .visualAttachment → 6 * s.features.size < 2 ^ 32 →
      (mesh s n inputs).triangles.length = 8 * s.features.size ∧
        (mesh s n inputs).Oriented) := by
  constructor
  · intro hkind h
    have hmesh : mesh s n inputs =
        .join (s.lights.items.map fun l => .marker l.position l.interior) := by
      simp only [mesh, hkind]
    rw [hmesh]
    exact Mesh.oriented_join_map (fun _ => Mesh.closed_marker ..)
      (fun _ => Mesh.vertexCount_marker ..) (fun _ => Mesh.triangleCount_marker ..) h
  · intro hkind h
    have hmesh : mesh s n inputs = .join (s.features.items.map .wedge) := by
      simp only [mesh, hkind]
    rw [hmesh]
    exact Mesh.oriented_join_map Mesh.closed_wedge Mesh.vertexCount_wedge
      Mesh.triangleCount_wedge h

/-- A ship with one light at the origin and one nowhere at all, and with two features in one place,
of which one is turned by no angle at all. -/
def cluttered : Elements Single :=
  { Elements.empty with
    lights := ⟨[default, { (default : Light Single) with position := .splat ⟨0x7FC00000⟩ }]⟩
    features := ⟨[default, { (default : Feature Single) with rotation := ⟨0x7FC00000⟩ }]⟩ }

/-- Both the markers and the wedges of the cluttered ship have sixteen triangles. -/
theorem oriented_markers_and_wedges_cluttered :
    let lights := mesh cluttered (.ofKind ⟨1⟩ .lightFixture) []
    let features := mesh cluttered (.ofKind ⟨2⟩ .visualAttachment) []
    6 * cluttered.lights.size < 2 ^ 32 ∧ lights.triangles.length = 16 ∧ lights.Oriented ∧
      6 * cluttered.features.size < 2 ^ 32 ∧ features.triangles.length = 16 ∧
      features.Oriented := by
  intro lights features
  obtain ⟨hlights, -⟩ := oriented_markers_and_wedges cluttered (.ofKind ⟨1⟩ .lightFixture) []
  obtain ⟨-, hfeatures⟩ :=
    oriented_markers_and_wedges cluttered (.ofKind ⟨2⟩ .visualAttachment) []
  have hfit : 6 * cluttered.lights.size < 2 ^ 32 := by decide
  have hfit' : 6 * cluttered.features.size < 2 ^ 32 := by decide
  obtain ⟨hcount, horiented⟩ := hlights rfl hfit
  obtain ⟨hcount', horiented'⟩ := hfeatures rfl hfit'
  exact ⟨hfit, hcount, horiented, hfit', hcount', horiented'⟩

end Stage

end Shipwright
