import Shipwright.Proofs.Ship.Learning

/-!
# What a profile learns about length and width

A design without control points has neither length nor width. A profile passes over it when it
averages them and yet numbers it among the designs, so that the next design is weighed as if the
one before had been of average extent. What the averages come to therefore depends on the order of
the designs. They are the means over the designs with control points only where those come first;
a profile that begins with designs without control points takes each of them for one of extent zero.
-/

namespace Shipwright

/-- Some values with each absent one filled in by the average of those before it. -/
def filled (vs : List (Option ℚ)) : List ℚ :=
  vs.foldl (fun xs v => xs ++ [v.getD (average xs)]) []

@[simp] theorem filled_concat (vs : List (Option ℚ)) (v : Option ℚ) :
    filled (vs ++ [v]) = filled vs ++ [v.getD (average (filled vs))] := by
  simp [filled]

/-- No place stays empty. -/
@[simp] theorem length_filled (vs : List (Option ℚ)) : (filled vs).length = vs.length := by
  induction vs using List.reverseRecOn with
  | nil => rfl
  | append_singleton vs v ih => simp [ih]

/-- Where nothing is absent there is nothing to fill in. -/
theorem filled_map_some (xs : List ℚ) : filled (xs.map some) = xs := by
  induction xs using List.reverseRecOn with
  | nil => rfl
  | append_singleton xs x ih => simp [ih]

/-- Before the first value zeros are filled in. -/
theorem filled_replicate_none (n : Nat) : filled (.replicate n none) = .replicate n 0 := by
  induction n with
  | zero => rfl
  | succ n ih =>
    have haverage : average (.replicate n 0) = 0 := by simp [average]
    rw [List.replicate_succ', filled_concat, ih, haverage, Option.getD_none, List.replicate_succ']

/-- One more value that is the average leaves the average as it is. -/
theorem average_concat_average (xs : List ℚ) : average (xs ++ [average xs]) = average xs := by
  have hlength : (xs.length + 1 : ℚ) ≠ 0 := Nat.cast_add_one_ne_zero _
  calc average (xs ++ [average xs])
      = (xs.sum + average xs) / (xs.length + 1) := by simp [average]
    _ = average xs * (xs.length + 1) / (xs.length + 1) := by
        rw [← average_mul_length, mul_add, mul_one]
    _ = average xs := mul_div_cancel_right₀ _ hlength

/-- Absent values at the end leave the average as it is. -/
theorem average_filled_append_of_none {vs ws : List (Option ℚ)} (h : ∀ w ∈ ws, w = none) :
    average (filled (vs ++ ws)) = average (filled vs) := by
  induction ws using List.reverseRecOn with
  | nil => rw [List.append_nil]
  | append_singleton ws w ih =>
    obtain rfl := h w (by simp)
    have hothers := ih fun v hv => h v (List.mem_append_left _ hv)
    rw [← List.append_assoc, filled_concat, Option.getD_none, average_concat_average, hothers]

section Exact

attribute [local instance] Scalar.rational

/-- A design has no length just if it has no control point. -/
theorem Design.length?_eq_none_iff {d : Design ℚ} : d.length? = none ↔ d.controlPoints = [] := by
  rw [length?]
  cases d.controlPoints <;> simp

/-- A design has no width just if it has no control point. -/
theorem Design.width?_eq_none_iff {d : Design ℚ} : d.width? = none ↔ d.controlPoints = [] := by
  rw [width?]
  cases d.controlPoints <;> simp

namespace LearnedProfile

/-- A part of a profile follows an extent that just the designs with control points have: it is zero
at first, and a design with the extent extends it as an average over all designs so far. -/
structure Follows (part : LearnedProfile ℚ → ℚ) (extent? : Design ℚ → Option ℚ) : Prop where
  /-- A blank profile has nothing of it. -/
  blank (className : String) : part (.blank className) = 0
  /-- A design without the extent leaves the part as it is. -/
  incorporate (p : LearnedProfile ℚ) (d : Design ℚ) :
    part (p.incorporate d) =
      ((extent? d).map (extendMean (Scalar.ofCount p.samples.toNat) (part p))).getD (part p)
  /-- The extent is one of the control points. -/
  eq_none_iff {d : Design ℚ} : extent? d = none ↔ d.controlPoints = []

theorem follows_length : Follows (·.length) Design.length? where
  blank _ := by norm_num [LearnedProfile.blank]
  incorporate _ _ := rfl
  eq_none_iff := Design.length?_eq_none_iff

theorem follows_width : Follows (·.width) Design.width? where
  blank _ := by norm_num [LearnedProfile.blank]
  incorporate _ _ := rfl
  eq_none_iff := Design.width?_eq_none_iff

namespace Follows

variable {part : LearnedProfile ℚ → ℚ} {extent? : Design ℚ → Option ℚ}

/-- The part is the average over all designs, where one without the extent stands for the average of
those before it, as long as the number of the other designs is kept. -/
theorem learned (h : Follows part extent?) (className : String) {ds : List (Design ℚ)}
    (hfew : ds.length ≤ 2 ^ 32) :
    part (.learned className ds) = average (filled (ds.map extent?)) := by
  induction ds using List.reverseRecOn with
  | nil => exact (h.blank className).trans (by simp [filled, average])
  | append_singleton ds d ih =>
    rw [List.length_append, List.length_singleton] at hfew
    have hlength : ds.length < 2 ^ 32 := hfew
    rw [learned_concat, h.incorporate, toNat_samples_learned className hlength, ih hlength.le,
      List.map_append, List.map_singleton, filled_concat]
    cases extent? d with
    | none => exact (average_concat_average _).symm
    | some x =>
      have hextend := extendMean_average (filled (ds.map extent?)) x
      rw [length_filled, List.length_map] at hextend
      exact hextend

/-- The designs with control points all have the extent. -/
theorem map_eq_map_some (h : Follows part extent?) {ds : List (Design ℚ)}
    (hds : ∀ d ∈ ds, d.controlPoints ≠ []) : ds.map extent? = (ds.filterMap extent?).map some := by
  induction ds with
  | nil => rfl
  | cons d ds ih =>
    obtain ⟨hd, hrest⟩ := List.forall_mem_cons.mp hds
    obtain ⟨x, hx⟩ := Option.ne_none_iff_exists'.mp (h.eq_none_iff.not.mpr hd)
    rw [List.map_cons, List.filterMap_cons_some hx, List.map_cons, ih hrest, hx]

/-- Designs without control points all lack the extent. -/
theorem map_eq_replicate_none (h : Follows part extent?) {ds : List (Design ℚ)}
    (hds : ∀ d ∈ ds, d.controlPoints = []) : ds.map extent? = .replicate ds.length none :=
  List.map_eq_replicate_iff.mpr fun d hd => h.eq_none_iff.mpr (hds d hd)

/-- Designs without control points at the end leave the part as it is. -/
theorem learned_append (h : Follows part extent?) (className : String) {ds bare : List (Design ℚ)}
    (hbare : ∀ d ∈ bare, d.controlPoints = []) (hfew : (ds ++ bare).length ≤ 2 ^ 32) :
    part (.learned className (ds ++ bare)) = average (filled (ds.map extent?)) := by
  rw [h.learned className hfew, List.map_append]
  refine average_filled_append_of_none fun v hv => ?_
  obtain ⟨d, hd, rfl⟩ := List.mem_map.mp hv
  exact h.eq_none_iff.mpr (hbare d hd)

/-- Where the designs with control points come first, the part is the average of their extents. -/
theorem learned_of_built_first (h : Follows part extent?) (className : String)
    {built bare : List (Design ℚ)} (hbuilt : ∀ d ∈ built, d.controlPoints ≠ [])
    (hbare : ∀ d ∈ bare, d.controlPoints = []) (hfew : (built ++ bare).length ≤ 2 ^ 32) :
    part (.learned className (built ++ bare)) = average ((built ++ bare).filterMap extent?) := by
  have hnone : bare.filterMap extent? = [] :=
    List.filterMap_eq_nil_iff.mpr fun d hd => h.eq_none_iff.mpr (hbare d hd)
  rw [h.learned_append className hbare hfew, h.map_eq_map_some hbuilt, filled_map_some,
    List.filterMap_append, hnone, List.append_nil]

/-- Where one design alone has control points, its extent is shared out among it and the designs
before it. -/
theorem learned_of_one_built (h : Follows part extent?) (className : String)
    {before after : List (Design ℚ)} {d : Design ℚ} (hbefore : ∀ e ∈ before, e.controlPoints = [])
    (hafter : ∀ e ∈ after, e.controlPoints = []) (hfew : (before ++ d :: after).length ≤ 2 ^ 32)
    {x : ℚ} (hx : extent? d = some x) :
    part (.learned className (before ++ d :: after)) = x / (before.length + 1) := by
  rw [List.append_cons] at hfew ⊢
  rw [h.learned_append className hafter hfew, List.map_append, List.map_singleton, hx,
    h.map_eq_replicate_none hbefore, filled_concat, filled_replicate_none, Option.getD_some]
  simp [average]

end Follows

/-- In exact arithmetic the length and the width that a profile has learned from some designs are
the averages over all of them, where a design without control points stands for the average of those
before it. So they are the means over the designs with control points if no design without any comes
before those; and if one design alone has control points, they are its length and width divided
among it and the designs before it. The designs but one are to be so few that they can be
numbered. -/
theorem extents_learned (className : String) (ds : List (Design ℚ)) (hfew : ds.length ≤ 2 ^ 32) :
    let p : LearnedProfile ℚ := .learned className ds
    (p.length = average (filled (ds.map Design.length?)) ∧
      p.width = average (filled (ds.map Design.width?))) ∧
    (∀ built bare, ds = built ++ bare → (∀ d ∈ built, d.controlPoints ≠ []) →
      (∀ d ∈ bare, d.controlPoints = []) →
      p.length = average (ds.filterMap Design.length?) ∧
        p.width = average (ds.filterMap Design.width?)) ∧
    ∀ before d after, ds = before ++ d :: after → (∀ e ∈ before, e.controlPoints = []) →
      (∀ e ∈ after, e.controlPoints = []) →
      (∀ length, d.length? = some length → p.length = length / (before.length + 1)) ∧
        ∀ width, d.width? = some width → p.width = width / (before.length + 1) := by
  refine ⟨⟨follows_length.learned className hfew, follows_width.learned className hfew⟩, ?_, ?_⟩
  · rintro built bare rfl hbuilt hbare
    exact ⟨follows_length.learned_of_built_first className hbuilt hbare hfew,
      follows_width.learned_of_built_first className hbuilt hbare hfew⟩
  · rintro before d after rfl hbefore hafter
    exact ⟨fun _ => follows_length.learned_of_one_built className hbefore hafter hfew,
      fun _ => follows_width.learned_of_one_built className hbefore hafter hfew⟩

/-- A hull of two control points, so long and of such a radius. -/
def spar (length radius : ℚ) : Design ℚ :=
  { Design.empty with controlPoints := [.at ⟨0, 0, 0⟩ radius, .at ⟨length, 0, 0⟩ radius] }

/-- Before a design without control points a spar of length 8 and width 1 is learned as it is, and
after one it is learned at half its length and width. -/
theorem extents_learned_spar :
    let first : LearnedProfile ℚ := .learned "Frigate" [spar 8 (1 / 2), .empty]
    let last : LearnedProfile ℚ := .learned "Frigate" [.empty, spar 8 (1 / 2)]
    first.length = 8 ∧ first.width = 1 ∧ last.length = 4 ∧ last.width = 1 / 2 := by
  have hlength : (spar 8 (1 / 2)).length? = some 8 := by decide +kernel
  have hwidth : (spar 8 (1 / 2)).width? = some 1 := by decide +kernel
  have hbare : ∀ d ∈ [(Design.empty : Design ℚ)], d.controlPoints = [] := by simp [Design.empty]
  have hbuilt : ∀ d ∈ [spar 8 (1 / 2)], d.controlPoints ≠ [] := by simp [spar]
  obtain ⟨-, hfirst, -⟩ := extents_learned "Frigate" [spar 8 (1 / 2), .empty] (by simp)
  obtain ⟨-, -, hlast⟩ := extents_learned "Frigate" [.empty, spar 8 (1 / 2)] (by simp)
  obtain ⟨hfirstLength, hfirstWidth⟩ := hfirst [spar 8 (1 / 2)] [.empty] rfl hbuilt hbare
  obtain ⟨hlastLength, hlastWidth⟩ := hlast [.empty] (spar 8 (1 / 2)) [] rfl hbare nofun
  refine ⟨hfirstLength.trans ?_, hfirstWidth.trans ?_, (hlastLength 8 hlength).trans ?_,
    (hlastWidth 1 hwidth).trans ?_⟩
  · decide +kernel
  · decide +kernel
  · norm_num
  · norm_num

/-- After a design without control points a spar of length 8 and width 1 is learned as one of length
4 and width 1/2, although no other design has a length or a width. -/
theorem spar_learned_after_bare :
    let ds := [Design.empty, spar 8 (1 / 2)]
    let p : LearnedProfile ℚ := .learned "Frigate" ds
    average (ds.filterMap Design.length?) = 8 ∧ p.length = 4 ∧
      average (ds.filterMap Design.width?) = 1 ∧ p.width = 1 / 2 := by
  decide +kernel

end LearnedProfile

end Exact

end Shipwright
