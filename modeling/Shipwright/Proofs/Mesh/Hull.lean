import Shipwright.Proofs.Mesh.Panels
import Shipwright.Proofs.Mesh.Shapes
import Shipwright.Single

/-!
# The surface of a hull

The triangles of a hull are its panels, but those of the walls are turned over. So a hull is a
closed surface, and yet not wound consistently: along its two rims the walls and the ends go the
same way.
-/

namespace Shipwright

namespace Mesh

namespace Loft

variable (segments rings : Nat)

/-- The number of the vertex at a place. -/
def Place.number : Place → Nat
  | .ring r s => r * segments + s
  | .front => rings * segments
  | .back => rings * segments + 1

/-- The place of the vertex with a number. -/
def placeAt (v : Nat) : Place :=
  if v < rings * segments then .ring (v / segments) (v % segments)
  else if v = rings * segments then .front else .back

/-- The index of the vertex at a place. -/
def Place.index (p : Place) : UInt32 := (p.number segments rings).toUInt32

/-- The side between the vertices at two places. -/
def sideAt : Place × Place → UInt32 × UInt32 :=
  Prod.map (Place.index segments rings) (Place.index segments rings)

/-- The triangle of a panel. -/
def Panel.triangle (p : Panel) : Triangle :=
  (p.corners segments rings).map (Place.index segments rings)

/-- The sides of a triangle are those of its panel. -/
theorem sides_triangle (p : Panel) :
    Facet.sides (p.triangle segments rings) =
      (Facet.sides (p.corners segments rings)).map (sideAt segments rings) :=
  Facet.sides_map _ _

/-- The triangles of the walls. -/
def wallTriangles : List Triangle :=
  ((walls segments rings).map (Panel.triangle segments rings)).map Facet.turn

/-- The triangles of the two ends. -/
def endTriangles : List Triangle := (ends segments).map (Panel.triangle segments rings)

/-- A hull has the panels of its ends the way they are, but turns over those of its walls. -/
theorem triangles_eq_append :
    triangles segments rings = wallTriangles segments rings ++ endTriangles segments rings := by
  have hwall : ∀ r, wall segments r =
      (((List.range segments).flatMap fun s => [.lower r s, .upper r s]).map
        (Panel.triangle segments rings)).map Facet.turn := by
    intro r
    rw [List.map_flatMap, List.map_flatMap]
    rfl
  have hfront : frontFan segments (rings * segments).toUInt32 =
      ((List.range segments).map Panel.front).map (Panel.triangle segments rings) := by
    rw [List.map_map]
    refine List.map_congr_left fun s _ => ?_
    simp [Panel.triangle, Panel.corners, Facet.map, Place.index, Place.number, next]
  have hback : backFan segments rings (rings * segments + 1).toUInt32 =
      ((List.range segments).map Panel.back).map (Panel.triangle segments rings) := by
    rw [List.map_map]
    rfl
  rw [triangles, trianglesAbout, wallTriangles, endTriangles, walls, ends, List.map_flatMap,
    List.map_flatMap, List.map_append, hfront, hback, List.append_assoc, funext hwall]

/-- The sides along the rims by the indices of the vertices. -/
def rims : List (UInt32 × UInt32) := (rimPlaces segments rings).map (sideAt segments rings)

variable {segments rings}

/-- A vertex index tells the number of its place, as long as words can count the vertices. -/
theorem toNat_index (hcount : rings * segments + 2 ≤ 2 ^ 32) {p : Place}
    (hp : p ∈ places segments rings) :
    (p.index segments rings).toNat = p.number segments rings := by
  have hlt : p.number segments rings < rings * segments + 2 := by
    cases p with
    | ring r s => exact Nat.lt_add_right 2 (place_lt hp.1 hp.2)
    | front => exact Nat.lt_add_of_pos_right (by decide)
    | back => exact Nat.lt_succ_self _
  rw [Place.index, Nat.toUInt32_eq, UInt32.toNat_ofNat_of_lt' (Nat.lt_of_lt_of_le hlt hcount)]

/-- A place is told by its number. -/
theorem placeAt_number {p : Place} (hp : p ∈ places segments rings) :
    placeAt segments rings (p.number segments rings) = p := by
  cases p with
  | ring r s =>
    have hdiv : (r * segments + s) / segments = r := by
      rw [Nat.mul_comm, Nat.mul_add_div (Nat.zero_lt_of_lt hp.2), Nat.div_eq_of_lt hp.2,
        Nat.add_zero]
    have hmod : (r * segments + s) % segments = s := by
      rw [Nat.mul_add_mod', Nat.mod_eq_of_lt hp.2]
    simp only [Place.number, placeAt, place_lt hp.1 hp.2, ite_true, hdiv, hmod]
  | front => simp [Place.number, placeAt]
  | back => simp [Place.number, placeAt]

/-- Every number of a vertex is that of a place. -/
theorem number_placeAt {v : Nat} (hsegments : 3 ≤ segments) (hv : v < rings * segments + 2) :
    placeAt segments rings v ∈ places segments rings ∧
    (placeAt segments rings v).number segments rings = v := by
  unfold placeAt
  split
  · rename_i hring
    have hdiv : v / segments < rings := Nat.div_lt_of_lt_mul (by rwa [Nat.mul_comm])
    exact ⟨⟨hdiv, Nat.mod_lt _ (by omega)⟩, Nat.div_add_mod' v segments⟩
  · split
    · rename_i hfront
      exact ⟨trivial, hfront.symm⟩
    · refine ⟨trivial, ?_⟩
      simp only [Place.number]
      omega

/-- Vertex indices tell places apart, as long as words can count the vertices. -/
theorem injOn_index (hcount : rings * segments + 2 ≤ 2 ^ 32) :
    Set.InjOn (Place.index segments rings) (places segments rings) := by
  intro p hp q hq h
  rw [← placeAt_number hp, ← placeAt_number hq, ← toNat_index hcount hp, ← toNat_index hcount hq, h]

section Words

variable (hsegments : 3 ≤ segments) (hrings : 2 ≤ rings)
  (hcount : rings * segments + 2 ≤ 2 ^ 32)

include hsegments hrings hcount

/-- Turning over the triangles of its walls makes a hull wound consistently. -/
theorem wound_turned :
    Facet.Wound ((wallTriangles segments rings).map Facet.turn ++ endTriangles segments rings) := by
  have heq : (wallTriangles segments rings).map Facet.turn ++ endTriangles segments rings =
      ((walls segments rings ++ ends segments).map (Panel.corners segments rings)).map
        (Facet.map (Place.index segments rings)) := by
    rw [wallTriangles, endTriangles, List.map_map, List.map_map, List.map_map, List.map_append]
    rfl
  rw [heq]
  refine (wound_corners hsegments hrings).map (injOn_index hcount) fun t ht => ?_
  obtain ⟨p, hp, rfl⟩ := List.mem_map.mp ht
  exact over_corners hrings (mem_panels.mp hp)

/-- The triangles of a hull have three different corners. -/
theorem proper_triangles : ∀ t ∈ triangles segments rings, Facet.Proper t := by
  have hpanel : ∀ p ∈ walls segments rings ++ ends segments,
      Facet.Proper (p.triangle segments rings) := fun p hp =>
    (proper_corners hsegments (mem_panels.mp hp)).map (injOn_index hcount)
      (over_corners hrings (mem_panels.mp hp))
  intro t ht
  rw [triangles_eq_append] at ht
  rcases List.mem_append.mp ht with ht | ht
  · obtain ⟨u, hu, rfl⟩ := List.mem_map.mp ht
    obtain ⟨p, hp, rfl⟩ := List.mem_map.mp hu
    exact (hpanel p (List.mem_append_left _ hp)).turn
  · obtain ⟨p, hp, rfl⟩ := List.mem_map.mp ht
    exact hpanel p (List.mem_append_right _ hp)

end Words

/-- The triangles of the walls have the sides of its panels the other way around. -/
theorem mem_outline_wallTriangles {d : UInt32 × UInt32} :
    d ∈ Facet.outline (wallTriangles segments rings) ↔
      ∃ p ∈ walls segments rings, ∃ e : Place × Place,
        e.swap ∈ Facet.sides (p.corners segments rings) ∧ sideAt segments rings e = d := by
  simp only [Facet.outline, wallTriangles, List.flatMap_map, List.mem_flatMap, Facet.mem_sides_turn,
    sides_triangle, List.mem_map]
  refine exists_congr fun p => and_congr_right fun _ => ?_
  constructor
  · rintro ⟨e, he, heq⟩
    exact ⟨e.swap, by simpa using he, Prod.swap_injective heq⟩
  · rintro ⟨e, he, rfl⟩
    exact ⟨e.swap, he, rfl⟩

/-- The triangles of the ends have the sides of its panels. -/
theorem mem_outline_endTriangles {d : UInt32 × UInt32} :
    d ∈ Facet.outline (endTriangles segments rings) ↔
      ∃ p ∈ ends segments, ∃ e ∈ Facet.sides (p.corners segments rings),
        sideAt segments rings e = d := by
  simp only [Facet.outline, endTriangles, List.flatMap_map, List.mem_flatMap, sides_triangle,
    List.mem_map]

/-- Both the walls and the ends go along the rims, in the same direction. -/
theorem mem_rims (hrings : 2 ≤ rings) (hcount : rings * segments + 2 ≤ 2 ^ 32)
    {d : UInt32 × UInt32} :
    d ∈ rims segments rings ↔
      d ∈ Facet.outline (wallTriangles segments rings) ∧
      d ∈ Facet.outline (endTriangles segments rings) := by
  rw [mem_outline_wallTriangles, mem_outline_endTriangles, rims, List.mem_map]
  constructor
  · rintro ⟨e, he, rfl⟩
    obtain ⟨⟨p, hp, hwall⟩, q, hq, hend⟩ := (mem_rimPlaces hrings).mp he
    exact ⟨⟨p, hp, e, hwall, rfl⟩, q, hq, e, hend, rfl⟩
  · rintro ⟨⟨p, hp, e, hwall, heq⟩, q, hq, e', hend, rfl⟩
    have hover : ∀ p ∈ walls segments rings ++ ends segments,
        Facet.Over (places segments rings) (p.corners segments rings) := fun p hp =>
      over_corners hrings (mem_panels.mp hp)
    have he := (hover p (List.mem_append_left _ hp)).mem_prod hwall
    have he' := (hover q (List.mem_append_right _ hq)).mem_prod hend
    obtain rfl : e = e' :=
      (injOn_index hcount).prodMap (injOn_index hcount) ⟨he.2, he.1⟩ he' heq
    exact ⟨e, (mem_rimPlaces hrings).mpr ⟨⟨p, hp, hwall⟩, q, hq, hend⟩, rfl⟩

/-- Every vertex of a hull is a corner of some triangle. -/
theorem exists_mem_triangles (hsegments : 3 ≤ segments) {p : Place}
    (hp : p ∈ places segments rings) :
    ∃ t ∈ triangles segments rings, p.index segments rings ∈ t.toList := by
  have hwall : ∀ q ∈ walls segments rings,
      Facet.turn (q.triangle segments rings) ∈ triangles segments rings := fun q hq => by
    rw [triangles_eq_append]
    exact List.mem_append_left _ (List.mem_map_of_mem (List.mem_map_of_mem hq))
  have hend : ∀ q ∈ ends segments, q.triangle segments rings ∈ triangles segments rings :=
    fun q hq => by
      rw [triangles_eq_append]
      exact List.mem_append_right _ (List.mem_map_of_mem hq)
  cases p with
  | ring r s =>
    obtain ⟨hr, hs⟩ := hp
    by_cases hnext : r + 1 < rings
    · exact ⟨_, hwall (.lower r s) (mem_walls.mpr ⟨r, s, hnext, hs, .inl rfl⟩), List.mem_cons_self⟩
    · obtain rfl : r = rings - 1 := by omega
      exact ⟨_, hend (.back s) (mem_ends.mpr ⟨s, hs, .inr rfl⟩),
        List.mem_cons_of_mem _ List.mem_cons_self⟩
  | front => exact ⟨_, hend (.front 0) (mem_ends.mpr ⟨0, by omega, .inl rfl⟩), List.mem_cons_self⟩
  | back => exact ⟨_, hend (.back 0) (mem_ends.mpr ⟨0, by omega, .inr rfl⟩), List.mem_cons_self⟩

end Loft

/-- The spine of a drum: two points with unit circles around them, one unit apart. -/
def drum : List (ControlPoint Single) :=
  [⟨⟨1⟩, ⟨⟨0⟩, ⟨0⟩, ⟨0⟩⟩, ⟨0x3F800000⟩, ⟨0x3F800000⟩⟩,
    ⟨⟨2⟩, ⟨⟨0x3F800000⟩, ⟨0⟩, ⟨0⟩⟩, ⟨0x3F800000⟩, ⟨0x3F800000⟩⟩]

section Hulls

variable {α : Type} [Trigonometric α] (points : List (ControlPoint α)) (segments : Nat)

/-- A hull has the triangles of its walls and its ends, as long as its vertices can be counted. -/
theorem triangles_loft (h : 2 ≤ points.length ∧ 3 ≤ segments)
    (hcount : points.length * segments + 2 ≤ 2 ^ 32) :
    (loft points segments).triangles = Loft.triangles segments points.length := by
  obtain ⟨cs, _, hloft⟩ := exists_loft_eq_ofCorners h
  rw [hloft, triangles_ofCorners, Loft.trianglesAbout_ofNatClamp hcount]

/-- A hull over two or more control points, with three or more segments, is a closed surface as long
as its vertices can be counted: two triangles meet at every edge. Fewer points or segments give no
mesh. -/
theorem watertight_loft :
    (2 ≤ points.length → 3 ≤ segments → points.length * segments + 2 < 2 ^ 32 →
      (loft points segments).vertexCount = points.length * segments + 2 ∧
      (loft points segments).triangles.length = 2 * points.length * segments ∧
      (loft points segments).Watertight) ∧
    (points.length < 2 ∨ segments < 3 → loft points segments = empty) := by
  refine ⟨fun hpoints hsegments hcount => ?_, fun hfew => loft_eq_empty (by omega)⟩
  have hvertices : (loft points segments).vertexCount = points.length * segments + 2 := by
    rw [vertexCount_loft, if_pos ⟨hpoints, hsegments⟩]
  have hfit : points.length * segments + 2 ≤ 2 ^ 32 := Nat.le_of_lt hcount
  have htriangles := triangles_loft points segments ⟨hpoints, hsegments⟩ hfit
  have hproper := Loft.proper_triangles hsegments hpoints hfit
  refine ⟨hvertices, ?_, ?_⟩
  · rw [htriangles, Loft.triangles, Loft.length_trianglesAbout (by omega)]
  constructor
  case wellFormed => exact wellFormed_loft (by rwa [hvertices])
  case proper => rwa [htriangles]
  case covered =>
    intro v hv
    rw [hvertices] at hv
    obtain ⟨hplace, hnumber⟩ := Loft.number_placeAt hsegments hv
    obtain ⟨t, ht, hmem⟩ := Loft.exists_mem_triangles hsegments hplace
    rw [htriangles]
    exact ⟨t, ht, _, hmem, (Loft.toNat_index hfit hplace).trans hnumber⟩
  case paired =>
    intro a b hab
    rw [htriangles] at hab ⊢
    rw [Loft.triangles_eq_append] at hproper hab ⊢
    exact (Loft.wound_turned hsegments hpoints hfit).countP_borders_of_turned hproper hab

/-- A drum of four segments is closed, and one of two segments is no mesh. -/
theorem watertight_drum :
    2 ≤ drum.length ∧ 3 ≤ 4 ∧ drum.length * 4 + 2 < 2 ^ 32 ∧
    (loft drum 4).vertexCount = 10 ∧ (loft drum 4).triangles.length = 16 ∧
    (loft drum 4).Watertight ∧ loft drum 2 = empty := by
  have hpoints : 2 ≤ drum.length := by decide
  have hcount : drum.length * 4 + 2 < 2 ^ 32 := by decide
  obtain ⟨hvertices, htriangles, hclosed⟩ :=
    (watertight_loft drum 4).1 hpoints (by decide) hcount
  exact ⟨hpoints, by decide, hcount, hvertices, htriangles, hclosed,
    (watertight_loft drum 2).2 (.inr (by decide))⟩

/-- The walls of a hull are wound against its ends: two triangles have a side along a rim, and none
its reverse. Every other side of a triangle is its own, and the reverse is a side of one other
triangle. -/
theorem sideCount_loft (hpoints : 2 ≤ points.length) (hsegments : 3 ≤ segments)
    (hcount : points.length * segments + 2 < 2 ^ 32) :
    (∀ d ∈ Loft.rims segments points.length,
      (loft points segments).sideCount d = 2 ∧ (loft points segments).sideCount d.swap = 0) ∧
    ∀ d ∉ Loft.rims segments points.length, 0 < (loft points segments).sideCount d →
      (loft points segments).sideCount d = 1 ∧ (loft points segments).sideCount d.swap = 1 := by
  have hfit : points.length * segments + 2 ≤ 2 ^ 32 := Nat.le_of_lt hcount
  have hwound := Loft.wound_turned hsegments hpoints hfit
  have hside : ∀ d, (loft points segments).sideCount d =
      (Facet.outline (Loft.wallTriangles segments points.length ++
        Loft.endTriangles segments points.length)).count d := by
    intro d
    have hproper := Loft.proper_triangles hsegments hpoints hfit
    rw [Loft.triangles_eq_append] at hproper
    rw [Facet.count_outline hproper, sideCount, triangles_loft _ _ ⟨hpoints, hsegments⟩ hfit,
      Loft.triangles_eq_append]
  simp only [hside, Loft.mem_rims hpoints hfit]
  refine ⟨fun d hd => hwound.count_seam hd.1 hd.2, fun d hd hpos => ?_⟩
  exact hwound.count_off_seam (List.count_pos_iff.mp hpos) hd

/-- On a drum of four segments two triangles go from the second vertex of the first ring to the
first one, and none goes back; along the walls the sides meet their reverses. -/
theorem sideCount_drum :
    2 ≤ drum.length ∧ 3 ≤ 4 ∧ drum.length * 4 + 2 < 2 ^ 32 ∧
    (1, 0) ∈ Loft.rims 4 drum.length ∧
    (loft drum 4).sideCount (1, 0) = 2 ∧ (loft drum 4).sideCount (0, 1) = 0 ∧
    (0, 4) ∉ Loft.rims 4 drum.length ∧ 0 < (loft drum 4).sideCount (0, 4) ∧
    (loft drum 4).sideCount (0, 4) = 1 ∧ (loft drum 4).sideCount (4, 0) = 1 := by
  have hpoints : 2 ≤ drum.length := by decide
  have hcount : drum.length * 4 + 2 < 2 ^ 32 := by decide
  have hrim : (1, 0) ∈ Loft.rims 4 drum.length := by decide
  have hoff : (0, 4) ∉ Loft.rims 4 drum.length := by decide
  have hpos : 0 < (loft drum 4).sideCount (0, 4) := by decide
  obtain ⟨hrims, hothers⟩ := sideCount_loft drum 4 hpoints (by decide) hcount
  obtain ⟨hdouble, hmissing⟩ := hrims (1, 0) hrim
  obtain ⟨honce, hback⟩ := hothers (0, 4) hoff hpos
  exact ⟨hpoints, by decide, hcount, hrim, hdouble, hmissing, hoff, hpos, honce, hback⟩

/-- A drum of four segments is not wound consistently: a wall and the front go along the same side
in the same direction. -/
theorem drum_not_wound :
    (2 ≤ drum.length ∧ 3 ≤ 4 ∧ drum.length * 4 + 2 < 2 ^ 32) ∧
    ¬ ∀ d, (loft drum 4).sideCount d ≤ 1 :=
  ⟨by decide, fun h => absurd (h (1, 0)) (by decide)⟩

end Hulls

end Mesh

end Shipwright
