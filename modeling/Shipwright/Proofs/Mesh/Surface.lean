import Shipwright.Proofs.Mesh.WellFormed
import Mathlib.Data.List.Count
import Mathlib.Data.List.Nodup
import Mathlib.Data.List.ProdSigma
import Mathlib.Data.Set.Function

/-!
# Surfaces

What surface triangles make depends on nothing but their corners, whatever these are. Read in order,
the corners give a triangle three sides, each with a direction. Triangles are wound consistently and
leave no gap if no side occurs twice and the reverse of each side occurs as well. Where some of the
triangles are turned over, the surface stays closed; the sides along the seam then lie double in one
direction and are missing in the other.
-/

namespace Shipwright

/-- A triangle by its three corners, whatever these are. -/
abbrev Facet (β : Type) := β × β × β

namespace Facet

variable {β γ : Type}

/-- The sides of a triangle, each from one corner to the next. -/
def sides (t : Facet β) : List (β × β) := [(t.1, t.2.1), (t.2.1, t.2.2), (t.2.2, t.1)]

/-- The triangle as it looks from behind. -/
def turn (t : Facet β) : Facet β := (t.1, t.2.2, t.2.1)

/-- The triangle over the images of the corners. -/
def map (f : β → γ) (t : Facet β) : Facet γ := (f t.1, f t.2.1, f t.2.2)

/-- The three corners are different. -/
def Proper (t : Facet β) : Prop := t.1 ≠ t.2.1 ∧ t.2.1 ≠ t.2.2 ∧ t.2.2 ≠ t.1

/-- The three corners are of some kind. -/
def Over (S : Set β) (t : Facet β) : Prop := t.1 ∈ S ∧ t.2.1 ∈ S ∧ t.2.2 ∈ S

/-- The triangle has an edge between two corners, in either direction. -/
def Borders (a b : β) (t : Facet β) : Prop := (a, b) ∈ t.sides ∨ (b, a) ∈ t.sides

instance [DecidableEq β] (a b : β) : DecidablePred (Borders a b) := fun t =>
  inferInstanceAs (Decidable ((a, b) ∈ t.sides ∨ (b, a) ∈ t.sides))

/-- All sides of some triangles. -/
def outline (ts : List (Facet β)) : List (β × β) := ts.flatMap sides

theorem outline_append (ts us : List (Facet β)) :
    outline (ts ++ us) = outline ts ++ outline us := List.flatMap_append

theorem mem_sides {t : Facet β} {d : β × β} :
    d ∈ t.sides ↔ d = (t.1, t.2.1) ∨ d = (t.2.1, t.2.2) ∨ d = (t.2.2, t.1) := by
  simp only [sides, List.mem_cons, List.not_mem_nil, or_false]

/-- The ends of a side are corners of its triangle. -/
theorem Over.mem_prod {t : Facet β} {S : Set β} (h : t.Over S) {d : β × β} (hd : d ∈ t.sides) :
    d ∈ S ×ˢ S := by
  obtain ⟨hfirst, hsecond, hthird⟩ := h
  rcases mem_sides.mp hd with rfl | rfl | rfl
  · exact ⟨hfirst, hsecond⟩
  · exact ⟨hsecond, hthird⟩
  · exact ⟨hthird, hfirst⟩

/-- The sides of a triangle that is turned over are the reverse ones. -/
theorem sides_turn (t : Facet β) : t.turn.sides = (t.sides.map Prod.swap).reverse := rfl

/-- A triangle that is turned over has a side if it had the reverse one. -/
theorem mem_sides_turn {t : Facet β} {d : β × β} : d ∈ t.turn.sides ↔ d.swap ∈ t.sides := by
  rw [sides_turn, List.mem_reverse]
  exact List.mem_map_swap d.2 d.1 t.sides

theorem sides_map (f : β → γ) (t : Facet β) : (t.map f).sides = t.sides.map (Prod.map f f) := rfl

/-- The sides over the images of the corners. -/
theorem outline_map (f : β → γ) (ts : List (Facet β)) :
    outline (ts.map (map f)) = (outline ts).map (Prod.map f f) := by
  simp only [outline, List.flatMap_map, List.map_flatMap, sides_map]

/-- Turning a triangle over keeps its corners apart. -/
theorem Proper.turn {t : Facet β} (h : t.Proper) : t.turn.Proper :=
  ⟨h.2.2.symm, h.2.1.symm, h.1.symm⟩

/-- A triangle keeps its corners apart over images that tell them apart. -/
theorem Proper.map {t : Facet β} (h : t.Proper) {f : β → γ} {S : Set β} (hf : Set.InjOn f S)
    (hS : t.Over S) : (t.map f).Proper :=
  ⟨hf.ne hS.1 hS.2.1 h.1, hf.ne hS.2.1 hS.2.2 h.2.1, hf.ne hS.2.2 hS.1 h.2.2⟩

/-- The sides of a proper triangle differ. -/
theorem Proper.nodup_sides {t : Facet β} (h : t.Proper) : t.sides.Nodup := by
  obtain ⟨x, y, z⟩ := t
  obtain ⟨hxy, hyz, hzx⟩ : x ≠ y ∧ y ≠ z ∧ z ≠ x := h
  simp [sides, hxy, hyz, hzx.symm]

section Counting

variable [DecidableEq β]

/-- Turned over, triangles have a side as often as they had its reverse. -/
theorem count_outline_turn (ts : List (Facet β)) (d : β × β) :
    (outline (ts.map turn)).count d = (outline ts).count d.swap := by
  induction ts with
  | nil => rfl
  | cons t ts ih =>
    have hswap : (t.sides.map Prod.swap).count d = t.sides.count d.swap := by
      conv_lhs => rw [← d.swap_swap]
      exact List.count_map_of_injective _ _ Prod.swap_injective _
    simp only [outline, List.map_cons, List.flatMap_cons, List.count_append] at ih ⊢
    rw [ih, sides_turn, List.count_reverse, hswap]

/-- Proper triangles have a side as often as there are triangles that have it. -/
theorem count_outline {ts : List (Facet β)} (h : ∀ t ∈ ts, t.Proper) (d : β × β) :
    (outline ts).count d = ts.countP fun t => d ∈ t.sides := by
  induction ts with
  | nil => rfl
  | cons t ts ih =>
    obtain ⟨ht, hts⟩ := List.forall_mem_cons.mp h
    have hsides : t.sides.count d = if d ∈ t.sides then 1 else 0 := by
      split
      · rename_i hd
        exact List.count_eq_one_of_mem ht.nodup_sides hd
      · rename_i hd
        exact List.count_eq_zero_of_not_mem hd
    simp only [outline, List.flatMap_cons, List.count_append, List.countP_cons,
      decide_eq_true_eq] at ih ⊢
    rw [ih hts, hsides, Nat.add_comm]

/-- A proper triangle has an edge as often as it has the side in the one direction or the other. -/
theorem Proper.count_sides {t : Facet β} (h : t.Proper) (a b : β) :
    t.sides.count (a, b) + t.sides.count (b, a) = if Borders a b t then 1 else 0 := by
  obtain ⟨x, y, z⟩ := t
  obtain ⟨hxy, hyz, hzx⟩ := h
  simp only [Borders, sides, List.count_cons, List.count_nil, List.mem_cons, List.not_mem_nil,
    Prod.mk.injEq, beq_iff_eq, or_false]
  grind

/-- Proper triangles have an edge as often as they have its two sides. -/
theorem countP_borders {ts : List (Facet β)} (h : ∀ t ∈ ts, t.Proper) (a b : β) :
    ts.countP (Borders a b) = (outline ts).count (a, b) + (outline ts).count (b, a) := by
  induction ts with
  | nil => rfl
  | cons t ts ih =>
    obtain ⟨ht, hts⟩ := List.forall_mem_cons.mp h
    have hsides := ht.count_sides a b
    simp only [outline, List.flatMap_cons, List.count_append, List.countP_cons,
      decide_eq_true_eq] at ih ⊢
    rw [ih hts, ← hsides]
    omega

end Counting

/-- Triangles that are wound consistently and leave no gap. -/
structure Wound (ts : List (Facet β)) : Prop where
  /-- No side occurs twice. -/
  nodup : (outline ts).Nodup
  /-- Every side meets its reverse. -/
  met : ∀ d ∈ outline ts, d.swap ∈ outline ts

/-- The ends of the sides of some triangles are corners of these. -/
theorem mem_prod_of_mem_outline {ts : List (Facet β)} {S : Set β} (h : ∀ t ∈ ts, t.Over S)
    {d : β × β} (hd : d ∈ outline ts) : d ∈ S ×ˢ S := by
  obtain ⟨t, ht, hd⟩ := List.mem_flatMap.mp hd
  exact (h t ht).mem_prod hd

/-- Triangles stay wound over images that tell their corners apart. -/
theorem Wound.map {ts : List (Facet β)} (h : Wound ts) {f : β → γ} {S : Set β}
    (hf : Set.InjOn f S) (hS : ∀ t ∈ ts, t.Over S) :
    Wound (ts.map (Facet.map f)) := by
  constructor
  · rw [outline_map]
    exact h.nodup.map_on fun d hd e he heq =>
      hf.prodMap hf (mem_prod_of_mem_outline hS hd) (mem_prod_of_mem_outline hS he) heq
  · rw [outline_map]
    intro d hd
    obtain ⟨e, he, rfl⟩ := List.mem_map.mp hd
    exact List.mem_map.mpr ⟨e.swap, h.met e he, rfl⟩

/-- Triangles over separate corners are wound together if they are wound on their own. -/
theorem Wound.append {ts us : List (Facet β)} (hts : Wound ts) (hus : Wound us) {S T : Set β}
    (hS : ∀ t ∈ ts, t.Over S) (hT : ∀ t ∈ us, t.Over T) (h : ∀ x ∈ S, x ∉ T) :
    Wound (ts ++ us) := by
  constructor
  · rw [outline_append]
    refine List.nodup_append.mpr ⟨hts.nodup, hus.nodup, ?_⟩
    rintro d hd _ hd' rfl
    exact h d.1 (mem_prod_of_mem_outline hS hd).1 (mem_prod_of_mem_outline hT hd').1
  · intro d hd
    rw [outline_append, List.mem_append] at hd ⊢
    exact hd.imp (hts.met d) (hus.met d)

section Seams

variable [DecidableEq β]

/-- Wound triangles have a side as often as its reverse. -/
theorem Wound.count_swap {ts : List (Facet β)} (h : Wound ts) (d : β × β) :
    (outline ts).count d.swap = (outline ts).count d := by
  have hle : ∀ d, (outline ts).count d ≤ (outline ts).count d.swap := by
    intro d
    by_cases hd : d ∈ outline ts
    · calc (outline ts).count d ≤ 1 := List.nodup_iff_count_le_one.mp h.nodup d
        _ ≤ (outline ts).count d.swap := List.one_le_count_iff.mpr (h.met d hd)
    · rw [List.count_eq_zero_of_not_mem hd]
      exact Nat.zero_le _
  have hback := hle d.swap
  rw [Prod.swap_swap] at hback
  exact Nat.le_antisymm hback (hle d)

variable {ws cs : List (Facet β)}

/-- How often triangles that are wound when the first ones are turned over have a side and its
reverse, among the first ones and among the others. -/
theorem Wound.count_of_turned (h : Wound (ws.map turn ++ cs)) (d : β × β) :
    (outline ws).count d + (outline cs).count d.swap =
      (outline ws).count d.swap + (outline cs).count d ∧
    (outline ws).count d.swap + (outline cs).count d ≤ 1 := by
  have hswap := h.count_swap d
  have hle := List.nodup_iff_count_le_one.mp h.nodup d
  simp only [outline_append, List.count_append, count_outline_turn, Prod.swap_swap] at hswap hle
  exact ⟨hswap, hle⟩

/-- Of triangles that are wound when the first ones are turned over, just two have an edge if any of
them has it. -/
theorem Wound.countP_borders_of_turned (h : Wound (ws.map turn ++ cs))
    (hproper : ∀ t ∈ ws ++ cs, t.Proper) {a b : β} (hab : ∃ t ∈ ws ++ cs, Borders a b t) :
    (ws ++ cs).countP (Borders a b) = 2 := by
  have hcount := countP_borders hproper a b
  have hpos : 0 < (ws ++ cs).countP (Borders a b) := by
    rw [List.countP_pos_iff]
    simpa using hab
  obtain ⟨hswap, hle⟩ := h.count_of_turned (a, b)
  rw [Prod.swap_prod_mk] at hswap hle
  rw [outline_append, List.count_append, List.count_append] at hcount
  omega

/-- A side along the seam between the turned triangles and the others lies double, and its reverse
is missing. -/
theorem Wound.count_seam (h : Wound (ws.map turn ++ cs)) {d : β × β} (hws : d ∈ outline ws)
    (hcs : d ∈ outline cs) :
    (outline (ws ++ cs)).count d = 2 ∧ (outline (ws ++ cs)).count d.swap = 0 := by
  have hcount := h.count_of_turned d
  rw [← List.count_pos_iff] at hws hcs
  simp only [outline_append, List.count_append]
  omega

/-- A side off the seam occurs once, and its reverse as well. -/
theorem Wound.count_off_seam (h : Wound (ws.map turn ++ cs)) {d : β × β}
    (hd : d ∈ outline (ws ++ cs)) (hseam : ¬ (d ∈ outline ws ∧ d ∈ outline cs)) :
    (outline (ws ++ cs)).count d = 1 ∧ (outline (ws ++ cs)).count d.swap = 1 := by
  have hcount := h.count_of_turned d
  simp only [outline_append, List.count_append, ← List.count_pos_iff] at hd hseam ⊢
  omega

end Seams

end Facet

/-- The triangles that indices give, three by three. -/
def Triangle.ofIndices : List UInt32 → List Triangle
  | a :: b :: c :: rest => (a, b, c) :: ofIndices rest
  | _ => []

/-- The triangles of indices that are left to be read in threes are those they were written for. -/
theorem Triangle.ofIndices_flatMap_toList (ts : List Triangle) :
    ofIndices (ts.flatMap toList) = ts := by
  induction ts with
  | nil => rfl
  | cons t ts ih => exact congrArg (t :: ·) ih

/-- Fewer than three indices are left where no triangle can be read. -/
theorem Triangle.length_lt_three {is : List UInt32}
    (h : ∀ a b c rest, is = a :: b :: c :: rest → False) : is.length < 3 := by
  rcases is with _ | ⟨a, _ | ⟨b, _ | ⟨c, is⟩⟩⟩
  · exact Nat.zero_lt_succ 2
  · exact Nat.one_lt_succ_succ 1
  · exact Nat.lt_succ_self 2
  · exact absurd rfl (h a b c is)

/-- Fewer than three indices give no triangle. -/
theorem Triangle.ofIndices_eq_nil {is : List UInt32} (h : is.length < 3) : ofIndices is = [] := by
  fun_cases ofIndices is with
  | case1 a b c is =>
    simp only [List.length_cons] at h
    omega
  | case2 => rfl

/-- Indices give a triangle for every three of them. -/
theorem Triangle.length_ofIndices (is : List UInt32) : (ofIndices is).length = is.length / 3 := by
  fun_induction ofIndices is with
  | case1 a b c is ih =>
    simp only [List.length_cons, ih]
    omega
  | case2 is hshort => exact (Nat.div_eq_of_lt (length_lt_three hshort)).symm

namespace Mesh

variable {α : Type}

/-- The triangles of a mesh. -/
def triangles (m : Mesh α) : List Triangle := Triangle.ofIndices m.indices

/-- A mesh has the triangles it is made of. -/
@[simp] theorem triangles_ofCorners (cs : List (Corner α)) (ts : List Triangle) :
    (ofCorners cs ts).triangles = ts := Triangle.ofIndices_flatMap_toList ts

/-- The triangles of a mesh are counted. -/
theorem length_triangles (m : Mesh α) : m.triangles.length = m.triangleCount :=
  Triangle.length_ofIndices m.indices

/-- How many triangles of a mesh have a side, in its direction. -/
def sideCount (m : Mesh α) (d : UInt32 × UInt32) : Nat :=
  m.triangles.countP fun t => d ∈ Facet.sides t

/-- A mesh is the whole surface of a body: every triangle has three different corners, every vertex
is a corner, and two triangles meet at every edge. -/
structure Watertight (m : Mesh α) : Prop where
  /-- The buffers of the mesh fit each other. -/
  wellFormed : m.WellFormed
  /-- Every triangle has three different corners. -/
  proper : ∀ t ∈ m.triangles, Facet.Proper t
  /-- Every vertex is a corner of some triangle. -/
  covered : ∀ v < m.vertexCount, ∃ t ∈ m.triangles, ∃ i ∈ t.toList, i.toNat = v
  /-- Every edge of a triangle is one of just two of them. -/
  paired : ∀ a b, (∃ t ∈ m.triangles, Facet.Borders a b t) →
    m.triangles.countP (Facet.Borders a b) = 2

end Mesh

end Shipwright
