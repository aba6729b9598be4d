import Shipwright.Proofs.Mesh.Surface

/-!
# The panels of a hull

The panels between the rings of a hull and at its ends, all with their corners counterclockwise as
seen from outside, are wound consistently and leave no gap: every side has one panel to its left,
and across the side lies another panel. This is told by the places of the corners, on a ring or in
the middle of an end, and so it does not matter how the vertices are numbered.
-/

namespace Shipwright

namespace Mesh

namespace Loft

/-- Where a vertex of a hull is: on a ring, or in the middle of an end. -/
inductive Place where
  | ring (ring step : Nat)
  | front
  | back
  deriving DecidableEq

/-- A triangle of a hull: the first or second of a quad between two rings, or one of a fan. -/
inductive Panel where
  | lower (ring step : Nat)
  | upper (ring step : Nat)
  | front (step : Nat)
  | back (step : Nat)
  deriving DecidableEq

section Steps

/-- The next step around a ring. -/
def next (segments s : Nat) : Nat := (s + 1) % segments

/-- The step before around a ring. -/
def prev (segments s : Nat) : Nat := (s + (segments - 1)) % segments

variable {segments s : Nat}

theorem next_eq (hs : s < segments) : next segments s = if s + 1 = segments then 0 else s + 1 := by
  unfold next
  split
  · rename_i h
    rw [h, Nat.mod_self]
  · exact Nat.mod_eq_of_lt (by omega)

theorem prev_eq (hs : s < segments) : prev segments s = if s = 0 then segments - 1 else s - 1 := by
  unfold prev
  split
  · rename_i h
    rw [h, Nat.zero_add, Nat.mod_eq_of_lt (by omega)]
  · rw [show s + (segments - 1) = (s - 1) + segments by omega, Nat.add_mod_right,
      Nat.mod_eq_of_lt (by omega)]

theorem next_lt (hs : s < segments) : next segments s < segments := Nat.mod_lt _ (by omega)

theorem prev_lt (hs : s < segments) : prev segments s < segments := Nat.mod_lt _ (by omega)

theorem prev_next (hs : s < segments) : prev segments (next segments s) = s := by
  have hnext := next_eq hs
  have hprev := prev_eq (next_lt hs)
  split at hnext <;> split at hprev <;> omega

theorem next_prev (hs : s < segments) : next segments (prev segments s) = s := by
  have hprev := prev_eq hs
  have hnext := next_eq (prev_lt hs)
  split at hprev <;> split at hnext <;> omega

theorem next_ne (hsegments : 3 ≤ segments) (hs : s < segments) : next segments s ≠ s := by
  have hnext := next_eq hs
  split at hnext <;> omega

theorem next_next_ne (hsegments : 3 ≤ segments) (hs : s < segments) :
    next segments (next segments s) ≠ s := by
  have hnext := next_eq hs
  have hlater := next_eq (next_lt hs)
  split at hnext <;> split at hlater <;> omega

end Steps

variable (segments rings : Nat)

/-- The places of a hull. -/
def places : Set Place :=
  {p | match p with
    | .ring r s => r < rings ∧ s < segments
    | .front | .back => True}

/-- The panels of a hull. -/
def Panel.Valid : Panel → Prop
  | .lower r s | .upper r s => r + 1 < rings ∧ s < segments
  | .front s | .back s => s < segments

/-- The corners of a panel, counterclockwise as seen from where its normals point. -/
def Panel.corners : Panel → Facet Place
  | .lower r s => (.ring r s, .ring r (next segments s), .ring (r + 1) s)
  | .upper r s =>
    (.ring r (next segments s), .ring (r + 1) (next segments s), .ring (r + 1) s)
  | .front s => (.front, .ring 0 (next segments s), .ring 0 s)
  | .back s => (.back, .ring (rings - 1) s, .ring (rings - 1) (next segments s))

/-- The panels of the walls. -/
def walls : List Panel :=
  (List.range (rings - 1)).flatMap fun r =>
    (List.range segments).flatMap fun s => [.lower r s, .upper r s]

/-- The panels of the two ends. -/
def ends : List Panel :=
  (List.range segments).map .front ++ (List.range segments).map .back

/-- The sides along the rims of a hull as its ends have them: backward around the first ring and
forward around the last one. -/
def rimPlaces : List (Place × Place) :=
  (List.range segments).map (fun s => (.ring 0 (next segments s), .ring 0 s)) ++
    (List.range segments).map fun s => (.ring (rings - 1) s, .ring (rings - 1) (next segments s))

variable {segments rings}

theorem mem_walls {p : Panel} :
    p ∈ walls segments rings ↔
      ∃ r s, r + 1 < rings ∧ s < segments ∧ (p = .lower r s ∨ p = .upper r s) := by
  simp only [walls, List.mem_flatMap, List.mem_range, List.mem_cons, List.not_mem_nil, or_false,
    Nat.lt_sub_iff_add_lt]
  constructor
  · rintro ⟨r, hr, s, hs, hp⟩
    exact ⟨r, s, hr, hs, hp⟩
  · rintro ⟨r, s, hr, hs, hp⟩
    exact ⟨r, hr, s, hs, hp⟩

theorem mem_ends {p : Panel} :
    p ∈ ends segments ↔ ∃ s < segments, p = .front s ∨ p = .back s := by
  simp only [ends, List.mem_append, List.mem_map, List.mem_range]
  grind

/-- The walls and the two ends have just the panels of the hull. -/
theorem mem_panels {p : Panel} :
    p ∈ walls segments rings ++ ends segments ↔ p.Valid segments rings := by
  rw [List.mem_append, mem_walls, mem_ends]
  cases p <;> simp [Panel.Valid]

/-- No panel is listed twice. -/
theorem nodup_panels : (walls segments rings ++ ends segments).Nodup := by
  have hwalls : (walls segments rings).Nodup := by
    refine List.nodup_flatMap.mpr ⟨fun r _ => ?_, List.nodup_range.imp fun {r r'} hr p hp hp' => ?_⟩
    · refine List.nodup_flatMap.mpr ⟨fun s _ => by simp, List.nodup_range.imp fun hs p hp hp' => ?_⟩
      grind
    · simp only [List.mem_flatMap] at hp hp'
      grind
  have hends : (ends segments).Nodup := by
    refine List.nodup_append.mpr ⟨?_, ?_, ?_⟩
    · exact List.nodup_range.map fun _ _ h => Panel.front.inj h
    · exact List.nodup_range.map fun _ _ h => Panel.back.inj h
    · simp
  refine List.nodup_append.mpr ⟨hwalls, hends, ?_⟩
  intro p hp q hq
  obtain ⟨r, s, _, _, hp⟩ := mem_walls.mp hp
  obtain ⟨s', _, hq⟩ := mem_ends.mp hq
  grind

variable (segments rings) in
/-- The panel to the left of a side on the outside of the hull. -/
def leftOf : Place × Place → Panel
  | (.front, .ring _ s) => .front (prev segments s)
  | (.ring _ s, .front) => .front s
  | (.back, .ring _ s) => .back s
  | (.ring _ s, .back) => .back (prev segments s)
  | (.ring r s, .ring r' s') =>
    if r' = r + 1 then if s' = s then .upper r (prev segments s) else .lower r s'
    else if r = r' + 1 then if s' = s then .lower r' s else .upper r' s
    else if s' = next segments s then if r + 1 = rings then .back s else .lower r s
    else if r = 0 then .front s' else .upper (r - 1) s'
  | _ => .front 0

/-- A panel is to the left of its sides. -/
theorem leftOf_of_mem_sides (hsegments : 3 ≤ segments) (hrings : 2 ≤ rings) {p : Panel}
    (hp : p.Valid segments rings) {d : Place × Place}
    (hd : d ∈ Facet.sides (p.corners segments rings)) : leftOf segments rings d = p := by
  cases p with
  | lower r s =>
    obtain ⟨hr, hs⟩ := hp
    have hne := next_ne hsegments hs
    rcases Facet.mem_sides.mp hd with rfl | rfl | rfl
    · simp [Panel.corners, leftOf, show r + 1 ≠ rings by omega]
    · simp [Panel.corners, leftOf, hne.symm]
    · simp [Panel.corners, leftOf, show r ≠ r + 1 + 1 by omega]
  | upper r s =>
    obtain ⟨hr, hs⟩ := hp
    have hne := next_ne hsegments hs
    have hnext := next_next_ne hsegments hs
    rcases Facet.mem_sides.mp hd with rfl | rfl | rfl
    · simp [Panel.corners, leftOf, prev_next hs]
    · simp [Panel.corners, leftOf, hnext.symm]
    · simp [Panel.corners, leftOf, hne, show r ≠ r + 1 + 1 by omega]
  | front s =>
    have hs : s < segments := hp
    have hnext := next_next_ne hsegments hs
    rcases Facet.mem_sides.mp hd with rfl | rfl | rfl
    · simp [Panel.corners, leftOf, prev_next hs]
    · simp [Panel.corners, leftOf, hnext.symm]
    · simp [Panel.corners, leftOf]
  | back s =>
    have hs : s < segments := hp
    rcases Facet.mem_sides.mp hd with rfl | rfl | rfl
    · simp [Panel.corners, leftOf]
    · simp [Panel.corners, leftOf, show rings - 1 + 1 = rings by omega,
        show rings - 1 ≠ rings by omega]
    · simp [Panel.corners, leftOf, prev_next hs]

/-- Across each side of a panel lies another one, to which the side goes the other way. -/
theorem exists_across (hrings : 2 ≤ rings) {p : Panel} (hp : p.Valid segments rings)
    {d : Place × Place} (hd : d ∈ Facet.sides (p.corners segments rings)) :
    ∃ q : Panel, q.Valid segments rings ∧ d.swap ∈ Facet.sides (q.corners segments rings) := by
  cases p with
  | lower r s =>
    obtain ⟨hr, hs⟩ := hp
    rcases Facet.mem_sides.mp hd with rfl | rfl | rfl
    · cases r with
      | zero => exact ⟨.front s, hs, by simp [Panel.corners, Facet.sides]⟩
      | succ r => exact ⟨.upper r s, ⟨by omega, hs⟩, by simp [Panel.corners, Facet.sides]⟩
    · exact ⟨.upper r s, ⟨hr, hs⟩, by simp [Panel.corners, Facet.sides]⟩
    · exact ⟨.upper r (prev segments s), ⟨hr, prev_lt hs⟩, by
        simp [Panel.corners, Facet.sides, next_prev hs]⟩
  | upper r s =>
    obtain ⟨hr, hs⟩ := hp
    rcases Facet.mem_sides.mp hd with rfl | rfl | rfl
    · exact ⟨.lower r (next segments s), ⟨hr, next_lt hs⟩, by simp [Panel.corners, Facet.sides]⟩
    · by_cases hlast : r + 1 = rings - 1
      · exact ⟨.back s, hs, by simp [Panel.corners, Facet.sides, hlast]⟩
      · exact ⟨.lower (r + 1) s, ⟨by omega, hs⟩, by simp [Panel.corners, Facet.sides]⟩
    · exact ⟨.lower r s, ⟨hr, hs⟩, by simp [Panel.corners, Facet.sides]⟩
  | front s =>
    have hs : s < segments := hp
    rcases Facet.mem_sides.mp hd with rfl | rfl | rfl
    · exact ⟨.front (next segments s), next_lt hs, by simp [Panel.corners, Facet.sides]⟩
    · exact ⟨.lower 0 s, ⟨by omega, hs⟩, by simp [Panel.corners, Facet.sides]⟩
    · exact ⟨.front (prev segments s), prev_lt hs, by
        simp [Panel.corners, Facet.sides, next_prev hs]⟩
  | back s =>
    have hs : s < segments := hp
    rcases Facet.mem_sides.mp hd with rfl | rfl | rfl
    · exact ⟨.back (prev segments s), prev_lt hs, by
        simp [Panel.corners, Facet.sides, next_prev hs]⟩
    · exact ⟨.upper (rings - 2) s, ⟨by omega, hs⟩, by
        simp [Panel.corners, Facet.sides, show rings - 2 + 1 = rings - 1 by omega]⟩
    · exact ⟨.back (next segments s), next_lt hs, by simp [Panel.corners, Facet.sides]⟩

/-- The corners of a panel differ. -/
theorem proper_corners (hsegments : 3 ≤ segments) {p : Panel} (hp : p.Valid segments rings) :
    Facet.Proper (p.corners segments rings) := by
  cases p with
  | lower r s => simp [Facet.Proper, Panel.corners, (next_ne hsegments hp.2).symm]
  | upper r s => simp [Facet.Proper, Panel.corners, next_ne hsegments hp.2]
  | front s => simp [Facet.Proper, Panel.corners, next_ne hsegments hp]
  | back s => simp [Facet.Proper, Panel.corners, (next_ne hsegments hp).symm]

/-- The panels are wound consistently and leave no gap. -/
theorem wound_corners (hsegments : 3 ≤ segments) (hrings : 2 ≤ rings) :
    Facet.Wound ((walls segments rings ++ ends segments).map (Panel.corners segments rings)) := by
  constructor
  · rw [Facet.outline, List.flatMap_map, List.nodup_flatMap]
    refine ⟨fun p hp => (proper_corners hsegments (mem_panels.mp hp)).nodup_sides, ?_⟩
    refine nodup_panels.pairwise_of_forall_ne fun p hp q hq hpq d hdp hdq => hpq ?_
    calc p = leftOf segments rings d :=
          (leftOf_of_mem_sides hsegments hrings (mem_panels.mp hp) hdp).symm
      _ = q := leftOf_of_mem_sides hsegments hrings (mem_panels.mp hq) hdq
  · rw [Facet.outline, List.flatMap_map]
    intro d hd
    obtain ⟨p, hp, hd⟩ := List.mem_flatMap.mp hd
    obtain ⟨q, hq, hd⟩ := exists_across hrings (mem_panels.mp hp) hd
    exact List.mem_flatMap.mpr ⟨q, mem_panels.mpr hq, hd⟩

/-- The corners of a panel are places of the hull. -/
theorem over_corners (hrings : 2 ≤ rings) {p : Panel} (hp : p.Valid segments rings) :
    Facet.Over (places segments rings) (p.corners segments rings) := by
  have hlast : rings - 1 < rings := by omega
  have hfirst : 0 < rings := by omega
  cases p with
  | lower r s =>
    have hr : r < rings := Nat.lt_of_succ_lt hp.1
    exact ⟨⟨hr, hp.2⟩, ⟨hr, next_lt hp.2⟩, ⟨hp.1, hp.2⟩⟩
  | upper r s =>
    exact ⟨⟨Nat.lt_of_succ_lt hp.1, next_lt hp.2⟩, ⟨hp.1, next_lt hp.2⟩, ⟨hp.1, hp.2⟩⟩
  | front s => exact ⟨trivial, ⟨hfirst, next_lt hp⟩, ⟨hfirst, hp⟩⟩
  | back s => exact ⟨trivial, ⟨hlast, hp⟩, ⟨hlast, next_lt hp⟩⟩

/-- A side along a rim belongs to an end, and its reverse to a wall. -/
theorem mem_rimPlaces (hrings : 2 ≤ rings) {d : Place × Place} :
    d ∈ rimPlaces segments rings ↔
      (∃ p ∈ walls segments rings, d.swap ∈ Facet.sides (p.corners segments rings)) ∧
      ∃ q ∈ ends segments, d ∈ Facet.sides (q.corners segments rings) := by
  constructor
  · intro hd
    rcases List.mem_append.mp hd with hd | hd
    · obtain ⟨s, hs, rfl⟩ := List.mem_map.mp hd
      rw [List.mem_range] at hs
      refine ⟨⟨.lower 0 s, mem_walls.mpr ⟨0, s, by omega, hs, .inl rfl⟩, ?_⟩,
        .front s, mem_ends.mpr ⟨s, hs, .inl rfl⟩, ?_⟩
      · exact Facet.mem_sides.mpr (.inl rfl)
      · exact Facet.mem_sides.mpr (.inr (.inl rfl))
    · obtain ⟨s, hs, rfl⟩ := List.mem_map.mp hd
      rw [List.mem_range] at hs
      refine ⟨⟨.upper (rings - 2) s, mem_walls.mpr ⟨rings - 2, s, by omega, hs, .inr rfl⟩, ?_⟩,
        .back s, mem_ends.mpr ⟨s, hs, .inr rfl⟩, ?_⟩
      · simp [Facet.mem_sides, Panel.corners, show rings - 2 + 1 = rings - 1 by omega]
      · exact Facet.mem_sides.mpr (.inr (.inl rfl))
  · rintro ⟨⟨p, hp, hwall⟩, q, hq, hend⟩
    obtain ⟨r, t, _, _, hp⟩ := mem_walls.mp hp
    have hring : ∀ x, x = Place.front ∨ x = Place.back → d.1 ≠ x ∧ d.2 ≠ x := by
      rcases hp with rfl | rfl <;> rcases Facet.mem_sides.mp hwall with h | h | h <;>
        · obtain ⟨hsnd, hfst⟩ := Prod.mk.inj h
          rw [hfst, hsnd]
          rintro x (rfl | rfl) <;> exact ⟨nofun, nofun⟩
    obtain ⟨s, hs, rfl | rfl⟩ := mem_ends.mp hq
    · rcases Facet.mem_sides.mp hend with rfl | rfl | rfl
      · exact absurd rfl (hring _ (.inl rfl)).1
      · exact List.mem_append_left _ (List.mem_map.mpr ⟨s, List.mem_range.mpr hs, rfl⟩)
      · exact absurd rfl (hring _ (.inl rfl)).2
    · rcases Facet.mem_sides.mp hend with rfl | rfl | rfl
      · exact absurd rfl (hring _ (.inr rfl)).1
      · exact List.mem_append_right _ (List.mem_map.mpr ⟨s, List.mem_range.mpr hs, rfl⟩)
      · exact absurd rfl (hring _ (.inr rfl)).2

end Loft

end Mesh

end Shipwright
