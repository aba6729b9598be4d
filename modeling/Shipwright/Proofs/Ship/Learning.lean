import Mathlib.Algebra.BigOperators.Ring.Finset
import Mathlib.Data.List.Basic
import Mathlib.Data.List.Induction
import Mathlib.Tactic.NormNum
import Shipwright.Proofs.Exact
import Shipwright.Ship.Library

/-!
# A library learns each class by itself

In a library that has learned from designs of several classes the profile of a class is what the
designs of that class alone make of a blank one, in their order; how they were mixed with the others
does not matter. The profiles stand in the order of their first designs. In exact arithmetic the
counts in a profile are the means over all designs of its class: with each design the mean of the
others is weighed by their number. The number of designs is kept in thirty-two bits: it is right for
fewer than 2³² designs of a class, and the means are right for one more. Past that a profile counts
from zero again and takes what it has for the mean of so few designs.
-/

namespace Shipwright

namespace OrderedMap

variable {κ ν : Type} [DecidableEq κ]

/-- The values of a map are what it answers for its keys in order. -/
theorem map_get?_keys (m : OrderedMap κ ν) :
    (m.entries.map Prod.fst).map m.get? = m.values.map some := by
  rw [values, List.map_map, List.map_map]
  exact List.map_congr_left fun _ he => lookup_of_mem m.nodup he

end OrderedMap

section Classes

variable {α : Type}

/-- The designs of a class among others, in order. -/
def Design.ofClass (className : String) (ds : List (Design α)) : List (Design α) :=
  ds.filter (·.className = className)

/-- The names of the classes of some designs, in the order of their first designs. -/
def Design.classes (ds : List (Design α)) : List String := (ds.map (·.className)).eraseDups

/-- A class is among those of some designs just if one of the designs is of the class. -/
theorem Design.mem_classes_iff {className : String} {ds : List (Design α)} :
    className ∈ classes ds ↔ ∃ d ∈ ds, d.className = className := by
  rw [classes, List.mem_eraseDups, List.mem_map]

/-- There are designs of a class just if it is among the classes. -/
theorem Design.ofClass_eq_nil_iff {className : String} {ds : List (Design α)} :
    ofClass className ds = [] ↔ className ∉ classes ds := by
  simp [ofClass, mem_classes_iff]

/-- One more design is the last one of its class. -/
theorem Design.ofClass_concat (className : String) (ds : List (Design α)) (d : Design α) :
    ofClass className (ds ++ [d]) =
      if d.className = className then ofClass className ds ++ [d] else ofClass className ds := by
  by_cases h : d.className = className <;> simp [ofClass, List.filter_append, h]

/-- One more design adds its class at the end if it is the first one of the class. -/
theorem Design.classes_concat (ds : List (Design α)) (d : Design α) :
    classes (ds ++ [d]) =
      if d.className ∈ classes ds then classes ds else classes ds ++ [d.className] := by
  have hnew : [d.className].removeAll (ds.map (·.className)) =
      if d.className ∈ classes ds then [] else [d.className] := by
    simp only [classes, List.mem_eraseDups, List.removeAll, List.filter_cons, List.filter_nil,
      List.elem_eq_mem, Bool.not_eq_true', decide_eq_false_iff_not, ite_not]
  rw [classes, List.map_append, List.eraseDups_append, List.map_singleton, hnew]
  split
  · exact List.append_nil _
  · rfl

variable [Scalar α]

/-- The profile of a class that has learned from some designs in order. -/
def LearnedProfile.learned (className : String) (ds : List (Design α)) : LearnedProfile α :=
  ds.foldl incorporate (blank className)

/-- The library that has learned from some designs in order. -/
def ProfileLibrary.learned (ds : List (Design α)) : ProfileLibrary α :=
  ds.foldl incorporate empty

namespace LearnedProfile

@[simp] theorem learned_concat (className : String) (ds : List (Design α)) (d : Design α) :
    learned className (ds ++ [d]) = (learned className ds).incorporate d := by
  simp [learned]

/-- A profile keeps its class. -/
@[simp] theorem className_learned (className : String) (ds : List (Design α)) :
    (learned className ds).className = className :=
  List.foldlRecOn (motive := fun p : LearnedProfile α => p.className = className) ds incorporate
    rfl fun _ h _ _ => h

/-- A profile counts the designs, in thirty-two bits. -/
theorem samples_learned (className : String) (ds : List (Design α)) :
    (learned className ds).samples = UInt32.ofNat ds.length := by
  induction ds using List.reverseRecOn with
  | nil => rfl
  | append_singleton ds d ih =>
    rw [learned_concat, List.length_append, List.length_singleton, UInt32.ofNat_add, ← ih]
    rfl

/-- A profile has the number of the designs as long as there are not too many. -/
theorem toNat_samples_learned (className : String) {ds : List (Design α)}
    (h : ds.length < 2 ^ 32) : (learned className ds).samples.toNat = ds.length := by
  rw [samples_learned, UInt32.toNat_ofNat_of_lt' h]

/-- One more design extends the mean number of control points by the number of those before it, as
far as thirty-two bits hold that. -/
theorem controlPoints_learned_concat (className : String) (ds : List (Design α)) (d : Design α) :
    (learned className (ds ++ [d])).controlPoints =
      extendMean (Scalar.ofCount (ds.length % 2 ^ 32)) (learned className ds).controlPoints
        (Scalar.ofCount d.controlPoints.length) := by
  have hsamples : (learned className ds).samples.toNat = ds.length % 2 ^ 32 := by
    rw [samples_learned, UInt32.toNat_ofNat']
  rw [learned_concat, ← hsamples]
  rfl

end LearnedProfile

namespace ProfileLibrary

@[simp] theorem learned_concat (ds : List (Design α)) (d : Design α) :
    learned (ds ++ [d]) = (learned ds).incorporate d := by
  simp [learned]

/-- A design changes the profile of its class alone. -/
theorem get?_incorporate (l : ProfileLibrary α) (d : Design α) (className : String) :
    (l.incorporate d).get? className =
      if className = d.className then
        some (((l.get? d.className).getD (.blank d.className)).incorporate d)
      else l.get? className :=
  OrderedMap.get?_set ..

/-- A library has the profile that the designs of a class have made, if there are any. -/
theorem get?_learned (ds : List (Design α)) (className : String) :
    (learned ds).get? className =
      if Design.ofClass className ds = [] then none
      else some (.learned className (Design.ofClass className ds)) := by
  induction ds using List.reverseRecOn with
  | nil => rfl
  | append_singleton ds d ih =>
    rw [learned_concat, get?_incorporate, Design.ofClass_concat]
    by_cases hclass : d.className = className
    · subst hclass
      have hprofile : ((learned ds).get? d.className).getD (.blank d.className) =
          .learned d.className (Design.ofClass d.className ds) := by
        rw [ih]
        split
        · rename_i hnone
          rw [hnone]
          rfl
        · rfl
      simp [hprofile]
    · rw [if_neg hclass, if_neg (Ne.symm hclass), ih]

/-- What a library has for a class is the profile that the designs of the class have made. -/
theorem eq_learned_of_get? {ds : List (Design α)} {className : String} {p : LearnedProfile α}
    (h : (learned ds).get? className = some p) :
    p = .learned className (Design.ofClass className ds) := by
  rw [get?_learned] at h
  split at h
  · cases h
  · exact (Option.some.inj h).symm

/-- A library has a profile for each class, in the order of their first designs. -/
theorem keys_learned (ds : List (Design α)) :
    (learned ds).profiles.entries.map Prod.fst = Design.classes ds := by
  induction ds using List.reverseRecOn with
  | nil => rfl
  | append_singleton ds d ih =>
    rw [learned_concat, Design.classes_concat, ← ih]
    exact OrderedMap.map_put ..

/-- The profiles stand in the order of the first designs of their classes. -/
theorem toList_learned (ds : List (Design α)) :
    (learned ds).toList = (Design.classes ds).map fun className =>
      .learned className (Design.ofClass className ds) := by
  refine List.map_injective_iff.mpr (Option.some_injective _) ?_
  rw [toList, ← OrderedMap.map_get?_keys, keys_learned, List.map_map]
  refine List.map_congr_left fun className hclass => ?_
  exact (get?_learned ds className).trans
    (if_neg fun hnone => Design.ofClass_eq_nil_iff.mp hnone hclass)

end ProfileLibrary

end Classes

/-- The average of some numbers, which is zero if there are none. -/
def average (xs : List ℚ) : ℚ := xs.sum / xs.length

/-- The average of some numbers, taken as often as there are numbers, is their sum. -/
theorem average_mul_length (xs : List ℚ) : average xs * xs.length = xs.sum := by
  cases xs with
  | nil => simp
  | cons x xs =>
    have hlength : ((x :: xs).length : ℚ) ≠ 0 := Nat.cast_ne_zero.mpr nofun
    exact div_mul_cancel₀ _ hlength

/-- Extending the average of some numbers by one more gives the average of all. -/
theorem extendMean_average (xs : List ℚ) (x : ℚ) :
    @LearnedProfile.extendMean ℚ .rational xs.length (average xs) x = average (xs ++ [x]) := by
  have hextend : @LearnedProfile.extendMean ℚ .rational xs.length (average xs) x =
      (average xs * xs.length + x) / (xs.length + 1.0) := rfl
  rw [hextend, average_mul_length, Scalar.one_literal, average, List.sum_append,
    List.length_append]
  simp

/-- The mean of some counts. -/
def mean (counts : List Nat) : ℚ := counts.sum / counts.length

/-- The mean of some counts is their average. -/
theorem mean_eq_average (counts : List Nat) : mean counts = average (counts.map Nat.cast) := by
  rw [mean, average, Nat.cast_list_sum, List.length_map]

/-- Extending the mean of some counts by one more gives the mean of all. -/
theorem extendMean_mean (counts : List Nat) (n : Nat) :
    @LearnedProfile.extendMean ℚ .rational counts.length (mean counts) n =
      mean (counts ++ [n]) := by
  have hextend := extendMean_average (counts.map Nat.cast) n
  rw [List.length_map, ← mean_eq_average] at hextend
  rw [hextend, mean_eq_average, List.map_append, List.map_singleton]

section Exact

local instance : Scalar ℚ := .rational

namespace LearnedProfile

/-- A part of a profile that is extended by a count of each design is the mean of the counts, as
long as the number of the other designs is kept. -/
theorem learned_eq_mean {part : LearnedProfile ℚ → ℚ} {count : Design ℚ → Nat}
    (hblank : ∀ className, part (blank className) = 0)
    (hextend : ∀ (p : LearnedProfile ℚ) d, part (p.incorporate d) =
      extendMean (Scalar.ofCount p.samples.toNat) (part p) (Scalar.ofCount (count d)))
    (className : String) {ds : List (Design ℚ)} (h : ds.length ≤ 2 ^ 32) :
    part (learned className ds) = mean (ds.map count) := by
  induction ds using List.reverseRecOn with
  | nil => exact (hblank className).trans (by simp [mean])
  | append_singleton ds d ih =>
    rw [List.length_append, List.length_singleton] at h
    have hlength : ds.length < 2 ^ 32 := h
    have hothers := extendMean_mean (ds.map count) (count d)
    rw [List.length_map] at hothers
    rw [learned_concat, hextend, toNat_samples_learned className hlength, ih hlength.le,
      List.map_append, List.map_singleton]
    exact hothers

end LearnedProfile

namespace ProfileLibrary

/-- A design with so many control points and rooms. -/
def sized (className : String) (controlPoints rooms : Nat) : Design ℚ :=
  { Design.empty with
    className, controlPoints := .replicate controlPoints default
    rooms := .replicate rooms default }

/-- A frigate between two corvettes. -/
def mixedFleet : List (Design ℚ) :=
  [sized "Corvette" 2 0, sized "Frigate" 4 1, sized "Corvette" 3 1]

/-- So many corvettes without control points, and one with a control point behind them. -/
def fleet (bare : Nat) : List (Design ℚ) :=
  .replicate bare (sized "Corvette" 0 0) ++ [sized "Corvette" 1 0]

@[simp] theorem length_fleet (bare : Nat) : (fleet bare).length = bare + 1 := by simp [fleet]

/-- All ships of the fleet are corvettes. -/
theorem ofClass_fleet (bare : Nat) : Design.ofClass "Corvette" (fleet bare) = fleet bare := by
  refine List.filter_eq_self.mpr fun d hd => ?_
  rcases List.mem_append.mp hd with hd | hd
  · obtain rfl := List.eq_of_mem_replicate hd
    rfl
  · obtain rfl := List.mem_singleton.mp hd
    rfl

/-- What a library knows about corvettes it has learned from the whole fleet. -/
theorem get?_learned_fleet (bare : Nat) :
    (learned (fleet bare)).get? "Corvette" = some (.learned "Corvette" (fleet bare)) := by
  have hne : fleet bare ≠ [] := List.ne_nil_of_length_eq_add_one (length_fleet bare)
  rw [get?_learned, ofClass_fleet, if_neg hne]

/-- The ships of the fleet have one control point in all. -/
theorem mean_fleet (bare : Nat) :
    mean ((fleet bare).map (·.controlPoints.length)) = 1 / (bare + 1) := by
  simp [mean, fleet, sized]

/-- The one control point is shared out among the last ship and as many others as thirty-two bits
hold of their number. -/
theorem controlPoints_learned_fleet {bare : Nat} (h : bare ≤ 2 ^ 32) :
    (LearnedProfile.learned "Corvette" (fleet bare)).controlPoints =
      1 / ((bare % 2 ^ 32 : Nat) + 1) := by
  let others : List (Design ℚ) := .replicate bare (sized "Corvette" 0 0)
  have hlength : others.length = bare := List.length_replicate
  have hzero : mean (others.map (·.controlPoints.length)) = 0 := by simp [mean, others, sized]
  have hothers : (LearnedProfile.learned "Corvette" others).controlPoints = 0 :=
    (LearnedProfile.learned_eq_mean (fun _ => Scalar.zero_literal) (fun _ _ => rfl) "Corvette"
      (hlength.trans_le h)).trans hzero
  have hlast := LearnedProfile.controlPoints_learned_concat "Corvette" others (sized "Corvette" 1 0)
  rw [hothers, hlength] at hlast
  have hextend (n : Nat) : LearnedProfile.extendMean (Scalar.ofCount n : ℚ) 0 (Scalar.ofCount 1) =
      1 / (n + 1) := by
    simp [LearnedProfile.extendMean, Scalar.one_literal, Scalar.ofCount]
  exact hlast.trans (hextend _)

end ProfileLibrary

end Exact

end Shipwright
