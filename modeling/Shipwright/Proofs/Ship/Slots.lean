import Mathlib.Data.List.Forall2
import Shipwright.Ship.Defaults
import Shipwright.Single

/-!
# What more slots leave as it is

The hardpoints of a new ship are drawn from one stream, the turrets before the launchers. Each of
them draws the same number of values wherever it stands, so the stream that a hardpoint finds is
told by how many there are of either kind in front of it. More launchers therefore only add to the
list, and a turret keeps all that is drawn for it when slots are added behind it: only its place
along the ship is spread anew. Launchers have no such law against turrets, which draw before them.
-/

namespace Shipwright

namespace XorShift

variable {β γ : Type}

/-- Drawing more values is drawing the first ones, and the others from the stream these leave. -/
theorem draws_add (draw : Nat → XorShift → β × XorShift) (i m n : Nat) (s : XorShift) :
    (draws draw i (m + n) s).1 =
      (draws draw i m s).1 ++ (draws draw (i + m) n (draws draw i m s).2).1 := by
  induction m generalizing i s with
  | zero => simp [draws]
  | succ m ih =>
    have hrest := ih (i + 1) (draw i s).2
    rw [Nat.add_assoc, Nat.add_comm 1 m] at hrest
    rw [Nat.add_right_comm]
    exact congrArg ((draw i s).1 :: ·) hrest

/-- Fewer draws give the front of what more draws give. -/
theorem draws_prefix (draw : Nat → XorShift → β × XorShift) (i : Nat) {m n : Nat} (h : m ≤ n)
    (s : XorShift) : (draws draw i m s).1 <+: (draws draw i n s).1 := by
  obtain ⟨k, rfl⟩ := Nat.exists_eq_add_of_le h
  rw [draws_add]
  exact List.prefix_append _ _

/-- What holds of each value that can be drawn holds of all that are. -/
theorem forall_mem_draws {draw : Nat → XorShift → β × XorShift} {P : β → Prop}
    (h : ∀ i s, P (draw i s).1) (i n : Nat) (s : XorShift) : ∀ b ∈ (draws draw i n s).1, P b := by
  induction n generalizing i s with
  | zero => exact fun _ hb => nomatch hb
  | succ n ih => exact List.forall_mem_cons.mpr ⟨h i s, ih (i + 1) (draw i s).2⟩

/-- Two kinds of draws that leave the same stream behind draw values that match one by one. -/
theorem forall₂_draws {draw : Nat → XorShift → β × XorShift}
    {draw' : Nat → XorShift → γ × XorShift} {R : β → γ → Prop}
    (h : ∀ i s, R (draw i s).1 (draw' i s).1 ∧ (draw i s).2 = (draw' i s).2)
    (i n : Nat) (s : XorShift) : List.Forall₂ R (draws draw i n s).1 (draws draw' i n s).1 := by
  induction n generalizing i s with
  | zero => exact .nil
  | succ n ih =>
    obtain ⟨hvalue, hstream⟩ := h i s
    have hrest := ih (i + 1) (draw i s).2
    simp only [draws] at hrest ⊢
    rw [hstream] at hrest
    exact .cons hvalue (hstream ▸ hrest)

end XorShift

/-- One hardpoint is the other, moved along the ship. -/
def Hardpoint.Shifted {α : Type} (h h' : Hardpoint α) : Prop :=
  h' = { h with position := { h.position with x := h'.position.x } }

namespace Defaults

variable {α : Type} [Scalar α]

/-- A turret is drawn alike for any number of slots, but for its place along the ship, and leaves
the same stream. -/
theorem shifted_turret (size : MountSize) (n n' i : Nat) (s : XorShift) :
    (turret (α := α) size n i s).1.Shifted (turret size n' i s).1 ∧
      (turret (α := α) size n i s).2 = (turret (α := α) size n' i s).2 :=
  ⟨rfl, rfl⟩

/-- The turrets and launchers of a new ship come from one stream, in this order. -/
theorem exists_hardpoints_eq (seed : UInt64) (className : String) :
    ∃ (size : MountSize) (s : XorShift), ∀ turrets launchers,
      (hardpoints seed className turrets launchers : List (Hardpoint α)) =
        (XorShift.draws (turret size turrets) 0 turrets s).1 ++
          (XorShift.draws (launcher size) 0 launchers
            (XorShift.draws (turret (α := α) size turrets) 0 turrets s).2).1 :=
  ⟨_, _, fun _ _ => rfl⟩

/-- A new ship has as many turrets as there are slots for them, and then as many launchers. More
slots for launchers leave all of these in place. With more slots for turrets, and any number for
launchers, each turret that was there is the same except for its place along the ship. -/
theorem hardpoints_keep_their_slots (seed : UInt64) (className : String) (turrets launchers : Nat) :
    (∃ above below : List (Hardpoint α),
      hardpoints seed className turrets launchers = above ++ below ∧
      above.length = turrets ∧ below.length = launchers ∧
      (∀ h ∈ above, h.weapon = .turret) ∧ ∀ h ∈ below, h.weapon = .launcher) ∧
    (∀ launchers', launchers ≤ launchers' →
      (hardpoints seed className turrets launchers : List (Hardpoint α)) <+:
        hardpoints seed className turrets launchers') ∧
    ∀ turrets' launchers' i, turrets ≤ turrets' → i < turrets →
      ∃ h h' : Hardpoint α, (hardpoints seed className turrets launchers)[i]? = some h ∧
        (hardpoints seed className turrets' launchers')[i]? = some h' ∧ h.Shifted h' := by
  obtain ⟨size, s, heq⟩ := exists_hardpoints_eq (α := α) seed className
  simp only [heq]
  refine ⟨⟨_, _, rfl, XorShift.length_draws .., XorShift.length_draws .., ?_, ?_⟩, ?_, ?_⟩
  · exact XorShift.forall_mem_draws (P := fun h : Hardpoint α => h.weapon = .turret)
      (fun _ _ => rfl) _ _ _
  · exact XorShift.forall_mem_draws (P := fun h : Hardpoint α => h.weapon = .launcher)
      (fun _ _ => rfl) _ _ _
  · intro launchers' h
    exact (List.prefix_append_right_inj _).mpr (XorShift.draws_prefix _ _ h _)
  · intro turrets' launchers' i h hi
    obtain ⟨k, rfl⟩ := Nat.exists_eq_add_of_le h
    have hrow := XorShift.forall₂_draws (shifted_turret (α := α) size turrets (turrets + k)) 0
      turrets s
    have hlength : i < (XorShift.draws (turret (α := α) size turrets) 0 turrets s).1.length := by
      rwa [XorShift.length_draws]
    have hlength' := hrow.length_eq ▸ hlength
    rw [XorShift.draws_add, List.append_assoc, List.getElem?_append_left hlength,
      List.getElem?_append_left hlength']
    exact ⟨_, _, List.getElem?_eq_getElem hlength, List.getElem?_eq_getElem hlength',
      hrow.get hlength hlength'⟩

/-- On a frigate with two more slots for turrets and none for launchers, the second of two turrets
is two units further to the front and otherwise the same. -/
theorem hardpoints_keep_their_slots_frigate :
    1 ≤ 3 ∧ (hardpoints 7 "Frigate" 2 1 : List (Hardpoint Single)) <+: hardpoints 7 "Frigate" 2 3 ∧
    2 ≤ 4 ∧ 1 < 2 ∧ ∃ h h' : Hardpoint Single, (hardpoints 7 "Frigate" 2 1)[1]? = some h ∧
      (hardpoints 7 "Frigate" 4 0)[1]? = some h' ∧ h.Shifted h' ∧
      h.position.x.bits = 0x3F800000 ∧ h'.position.x.bits = 0xBF800000 := by
  obtain ⟨-, hprefix, hturrets⟩ := hardpoints_keep_their_slots (α := Single) 7 "Frigate" 2 1
  obtain ⟨h, h', hfew, hmany, hshifted⟩ := hturrets 4 0 1 (by decide) (by decide)
  have hplace : ((hardpoints 7 "Frigate" 2 1 : List (Hardpoint Single))[1]?.map
      (·.position.x.bits)) = some 0x3F800000 := by decide +kernel
  have hplace' : ((hardpoints 7 "Frigate" 4 0 : List (Hardpoint Single))[1]?.map
      (·.position.x.bits)) = some 0xBF800000 := by decide +kernel
  rw [hfew] at hplace
  rw [hmany] at hplace'
  exact ⟨by decide, hprefix 3 (by decide), by decide, by decide, h, h', hfew, hmany, hshifted,
    Option.some.inj hplace, Option.some.inj hplace'⟩

end Defaults

end Shipwright
