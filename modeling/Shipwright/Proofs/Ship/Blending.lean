import Mathlib.Algebra.Order.Field.Basic
import Mathlib.Order.Bounds.Image
import Mathlib.Tactic.FieldSimp
import Mathlib.Tactic.Ring
import Shipwright.Proofs.Ship.Learning
import Shipwright.Ship.Assembly

/-!
# Blending a learned width into a hull

Applying a profile scales all radii of a hull by one factor, which is chosen by the largest of them.
In exact arithmetic the largest radius goes from where it is to half the learned width, as far as
the blend says, and the others keep their proportions to it. Where there is no learned width or no
radius above zero, the ship stays as it is, and stays compiled. -/

namespace Shipwright

section Exact

attribute [local instance] Scalar.rational

namespace Design

/-- The radii of some control points. -/
def radii (cs : List (ControlPoint ℚ)) : Set ℚ := {r | ∃ c ∈ cs, c.radius = r}

theorem radii_concat (cs : List (ControlPoint ℚ)) (c : ControlPoint ℚ) :
    radii (cs ++ [c]) = insert c.radius (radii cs) := by
  ext r
  simp [radii, or_and_right, exists_or, or_comm, eq_comm]

/-- Scaling control points scales their radii. -/
theorem radii_map_scale (cs : List (ControlPoint ℚ)) (factor : ℚ) :
    radii (cs.map fun c => { c with radius := c.radius * factor }) = (· * factor) '' radii cs := by
  ext r
  simp [radii]

theorem largestRadius_nil : largestRadius ([] : List (ControlPoint ℚ)) = 0 := by
  norm_num [largestRadius]

/-- The largest radius is the greatest of zero and the radii. -/
theorem isGreatest_largestRadius (cs : List (ControlPoint ℚ)) :
    IsGreatest (insert 0 (radii cs)) (largestRadius cs) := by
  induction cs using List.reverseRecOn with
  | nil =>
    rw [largestRadius_nil]
    simp [radii]
  | append_singleton cs c ih =>
    have hstep : largestRadius (cs ++ [c]) = max c.radius (largestRadius cs) := by
      rw [max_comm, ← Scalar.larger_eq_max, largestRadius, List.map_append, List.foldl_append]
      rfl
    rw [hstep, radii_concat, Set.insert_comm]
    exact ih.insert c.radius

/-- A positive number is the greatest of the radii just if it is the largest radius. -/
theorem isGreatest_radii_iff {cs : List (ControlPoint ℚ)} {r : ℚ} (hr : 0 < r) :
    IsGreatest (radii cs) r ↔ largestRadius cs = r := by
  have hlargest := isGreatest_largestRadius cs
  constructor
  · intro h
    have hinsert := h.insert 0
    rw [max_eq_right hr.le] at hinsert
    exact hlargest.unique hinsert
  · rintro rfl
    refine ⟨hlargest.1.resolve_left hr.ne', fun s hs => hlargest.2 (Set.mem_insert_of_mem 0 hs)⟩

end Design

namespace Assembly

open Design

/-- The factor takes the largest radius part of the way to half the width. -/
theorem mul_learnedFactor (width blend : ℚ) {r : ℚ} (hr : r ≠ 0) :
    r * learnedFactor width r blend = (1 - blend) * r + blend * (width / 2) := by
  have hfactor : learnedFactor width r blend = 1 + blend * (width / 2 / r - 1) := by
    norm_num [learnedFactor]
  rw [hfactor]
  field_simp
  ring

/-- Between two positive numbers everything is positive. -/
theorem blended_pos {r s blend : ℚ} (hr : 0 < r) (hs : 0 < s) (hlow : 0 ≤ blend)
    (hhigh : blend ≤ 1) : 0 < (1 - blend) * r + blend * s := by
  obtain rfl | hpos := hlow.eq_or_lt
  · simpa using hr
  · have hrest : 0 ≤ (1 - blend) * r := mul_nonneg (sub_nonneg.mpr hhigh) hr.le
    exact add_pos_of_nonneg_of_pos hrest (mul_pos hpos hs)

/-- The factor turns no radius round. -/
theorem learnedFactor_pos {width r blend : ℚ} (hr : 0 < r) (hwidth : 0 < width)
    (hlow : 0 ≤ blend) (hhigh : blend ≤ 1) : 0 < learnedFactor width r blend := by
  have hblended := blended_pos hr (half_pos hwidth) hlow hhigh
  rw [← mul_learnedFactor width blend hr.ne'] at hblended
  exact (mul_pos_iff_of_pos_left hr).mp hblended

/-- The ship with all radii multiplied by a factor, and with a stale order. -/
def scaleRadii (a : Assembly ℚ) (factor : ℚ) : Assembly ℚ :=
  a.withElements { a.elements with
    controlPoints := ⟨a.elements.controlPoints.items.map fun c =>
      { c with radius := c.radius * factor }⟩ }

/-- With factor one the elements stay as they are. -/
theorem elements_scaleRadii_one (a : Assembly ℚ) : (a.scaleRadii 1).elements = a.elements := by
  simp [scaleRadii, withElements]

/-- The greatest radius is scaled as the others are. -/
theorem isGreatest_scaleRadii {a : Assembly ℚ} {r factor : ℚ} (hfactor : 0 ≤ factor)
    (h : IsGreatest (radii a.elements.controlPoints.items) r) :
    IsGreatest (radii (a.scaleRadii factor).elements.controlPoints.items) (r * factor) := by
  have hradii : radii (a.scaleRadii factor).elements.controlPoints.items =
      (· * factor) '' radii a.elements.controlPoints.items := radii_map_scale ..
  rw [hradii]
  exact (monotone_mul_right_of_nonneg hfactor).map_isGreatest h

/-- A profile is applied just if it has samples, its width is positive and so is the largest
radius. -/
theorem applyProfile_eq_ite (a : Assembly ℚ) (p : LearnedProfile ℚ) (blend : ℚ) :
    a.applyProfile p blend =
      if p.hasSamples ∧ 0 < p.width ∧ 0 < largestRadius a.elements.controlPoints.items then
        a.scaleRadii (learnedFactor p.width (largestRadius a.elements.controlPoints.items) blend)
      else a := by
  let points := a.elements.controlPoints.items
  have hnone : points = [] → ¬0 < largestRadius points := by
    intro h
    rw [h, largestRadius_nil]
    exact lt_irrefl 0
  have hguard : (!p.hasSamples || points.isEmpty || Scalar.atMost (largestRadius points) 0.0 ||
      Scalar.atMost p.width 0.0) = true ↔
      ¬(p.hasSamples ∧ 0 < p.width ∧ 0 < largestRadius points) := by
    rw [Scalar.zero_literal, Bool.or_eq_true, Bool.or_eq_true, Bool.or_eq_true, Scalar.atMost_iff,
      Scalar.atMost_iff, List.isEmpty_iff, Bool.not_eq_true']
    grind
  exact (if_congr hguard rfl rfl).trans (ite_not ..)

/-- A ship whose largest radius is positive is twice as wide as that. -/
theorem width?_exportDesign {a : Assembly ℚ} {r : ℚ} (hr : 0 < r)
    (h : IsGreatest (radii a.elements.controlPoints.items) r) :
    a.exportDesign.width? = some (2 * r) := by
  obtain ⟨c, hc, -⟩ := h.1
  have hsome : a.exportDesign.controlPoints.isEmpty = false :=
    List.isEmpty_eq_false_iff.mpr (List.ne_nil_of_mem hc)
  have hwidth : a.exportDesign.width? = some (largestRadius a.elements.controlPoints.items * 2.0) :=
    if_neg (Bool.eq_false_iff.mp hsome)
  rw [hwidth, (isGreatest_radii_iff hr).mp h]
  norm_num [mul_comm]

/-- A profile with samples and a positive width, applied in exact arithmetic to a ship whose
greatest radius is positive, scales all radii by one positive factor and changes nothing else that
is on the ship. The greatest radius comes as far towards half the learned width as the blend says:
with a blend of zero the hull stays as it is, and with one the ship becomes as wide as learned. In
every other case the ship is the same, and still compiled if it was. -/
theorem applyProfile_blends (a : Assembly ℚ) (p : LearnedProfile ℚ) {blend : ℚ}
    (hlow : 0 ≤ blend) (hhigh : blend ≤ 1) :
    let points := a.elements.controlPoints.items
    let b := a.applyProfile p blend
    (∀ r, p.hasSamples → 0 < p.width → IsGreatest (radii points) r → 0 < r →
      (∃ factor, 0 < factor ∧ b = a.scaleRadii factor) ∧
      IsGreatest (radii b.elements.controlPoints.items)
        ((1 - blend) * r + blend * (p.width / 2)) ∧
      (blend = 0 → b.elements = a.elements) ∧
      (blend = 1 → b.exportDesign.width? = some p.width)) ∧
    (¬(p.hasSamples ∧ 0 < p.width ∧ ∃ r, IsGreatest (radii points) r ∧ 0 < r) → b = a) := by
  intro points b
  have hb : b = _ := applyProfile_eq_ite a p blend
  refine ⟨fun r hsamples hwidth hgreatest hr => ?_, fun hother => ?_⟩
  · have hlargest : largestRadius points = r := (isGreatest_radii_iff hr).mp hgreatest
    rw [if_pos ⟨hsamples, hwidth, hlargest ▸ hr⟩, hlargest] at hb
    have hfactor := learnedFactor_pos hr hwidth hlow hhigh
    have hscaled := isGreatest_scaleRadii hfactor.le hgreatest
    rw [← hb, mul_learnedFactor p.width blend hr.ne'] at hscaled
    refine ⟨⟨_, hfactor, hb⟩, hscaled, fun hzero => ?_, fun hone => ?_⟩
    · have hunit : learnedFactor p.width r blend = 1 := by norm_num [hzero, learnedFactor]
      rw [hb, hunit, elements_scaleRadii_one]
    · rw [hone, sub_self, zero_mul, zero_add, one_mul] at hscaled
      rw [width?_exportDesign (half_pos hwidth) hscaled, mul_div_cancel₀ _ two_ne_zero]
  · have hno : ¬(p.hasSamples ∧ 0 < p.width ∧ 0 < largestRadius points) :=
      fun ⟨hsamples, hwidth, hlargest⟩ =>
        hother ⟨hsamples, hwidth, _, (isGreatest_radii_iff hlargest).mpr rfl, hlargest⟩
    exact hb.trans (if_neg hno)

/-- A ship of two control points, the second one half as thick as the first. -/
def taperedShip : Assembly ℚ :=
  { empty with
    elements := { Elements.empty with
      controlPoints := ⟨[.at ⟨0, 0, 0⟩ 1, .at ⟨1, 0, 0⟩ (1 / 2)]⟩ } }

/-- Half way to a learned width of 4 the greatest radius of the tapered ship is 3/2; with nothing
learned the ship stays the same. -/
theorem applyProfile_blends_tapered :
    let p : LearnedProfile ℚ := { LearnedProfile.blank "Frigate" with width := 4, samples := 1 }
    IsGreatest (radii (taperedShip.applyProfile p (1 / 2)).elements.controlPoints.items) (3 / 2) ∧
      taperedShip.applyProfile (.blank "Frigate") (1 / 2) = taperedShip := by
  intro p
  have hlow : (0 : ℚ) ≤ 1 / 2 := by norm_num
  have hhigh : (1 / 2 : ℚ) ≤ 1 := by norm_num
  have hgreatest : IsGreatest (radii taperedShip.elements.controlPoints.items) 1 :=
    (isGreatest_radii_iff one_pos).mpr (by decide +kernel)
  obtain ⟨hscales, -⟩ := applyProfile_blends taperedShip p hlow hhigh
  obtain ⟨-, hkeeps⟩ := applyProfile_blends taperedShip (.blank "Frigate") hlow hhigh
  obtain ⟨-, hblended, -⟩ := hscales 1 rfl (by norm_num [p]) hgreatest one_pos
  refine ⟨?_, hkeeps fun ⟨hsamples, _⟩ => ?_⟩
  · norm_num [p] at hblended
    exact hblended
  · cases hsamples

end Assembly

end Exact

end Shipwright
