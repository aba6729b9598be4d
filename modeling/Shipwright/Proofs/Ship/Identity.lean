import Shipwright.Proofs.Ship.Numbering

/-!
# A number never names another element

The elements of a ship draw their numbers from one source for as long as the ship is
worked on. So a number that is kept somewhere, in the history say, names the element it
was kept for or nothing at all, whatever has been removed, generated or imported since.
This holds until the numbers run out.
-/

namespace Shipwright

variable {α : Type}

namespace Assembly

/-- The numbers that an operation takes from the source. -/
def Op.allocated [Scalar α] : Op α → Nat
  | .add _ => 1
  | .generate seed className settings =>
    (Defaults.controlPoints seed className : List (ControlPoint α)).length +
      (Defaults.hardpoints seed className settings.turretSlots.toNat
        settings.launcherSlots.toNat : List (Hardpoint α)).length +
      (Defaults.rooms className : List (Room α)).length +
      (Defaults.lights className : List (Light α)).length + settings.features.length
  | .importDesign d =>
    d.controlPoints.length + d.hardpoints.length + d.lights.length + d.rooms.length +
      d.features.length
  | _ => 0

section Elements

variable {ε : Type} [Element ε] [Fitting α ε] [Tagged α ε] {a : Assembly α}

/-- Removing an element from a ship draws no number. -/
theorem draws_remove (h : a.elements.Numbered) (id : ElementId) :
    a.elements.Draws 0 (a.remove ε id).1.elements := by
  have hremove : a.elements.Draws 0 (a.elements.remove ε id).1 := h.draws_remove id
  unfold remove
  split
  · rename_i heq
    rwa [heq] at hremove
  · exact h.draws_refl

/-- Changing an element of a ship so that it remains the same draws no number. -/
theorem draws_modify (h : a.elements.Numbered) (id : ElementId) {f : ε → ε}
    (hf : ∀ e, (Tagged.part e).Same (Tagged.part (f e))) :
    a.elements.Draws 0 (a.modify id f).1.elements := by
  unfold modify
  dsimp only
  split
  · exact h.draws_modify id hf
  · exact h.draws_refl

end Elements

section Scalar

variable [Scalar α] {a : Assembly α}

/-- Importing a design replaces all kinds of element by fresh ones. -/
theorem restocks_importDesign (h : a.elements.Numbered) (d : Design α)
    (hfew : a.elements.next + (Op.importDesign d).allocated < 2 ^ 32) :
    a.elements.Restocks [.feature, .room, .light, .hardpoint, .controlPoint]
      (Op.importDesign d).allocated (a.importDesign d).elements := by
  simp only [Op.allocated] at hfew ⊢
  have hpoints := h.restocks_nil.restock d.controlPoints (by omega)
  have hhardpoints := hpoints.restock d.hardpoints (by omega)
  have hlights := hhardpoints.restock d.lights (by omega)
  have hrooms := hlights.restock d.rooms (by omega)
  have hfeatures := hrooms.restock d.features (by omega)
  rwa [Nat.zero_add] at hfeatures

/-- Generating the defaults of a class replaces all kinds of element by fresh ones. -/
theorem restocks_generate (h : a.elements.Numbered) (seed : UInt64) (className : String)
    (settings : Settings α)
    (hfew : a.elements.next + (Op.generate seed className settings).allocated < 2 ^ 32) :
    a.elements.Restocks [.feature, .light, .room, .hardpoint, .controlPoint]
      (Op.generate seed className settings).allocated
      (a.generate seed className settings).elements := by
  simp only [Op.allocated] at hfew ⊢
  have hpoints := h.restocks_nil.restock (Defaults.controlPoints seed className) (by omega)
  have hhardpoints := hpoints.restock (Defaults.hardpoints seed className
    settings.turretSlots.toNat settings.launcherSlots.toNat) (by omega)
  have hrooms := hhardpoints.restock (Defaults.rooms className) (by omega)
  have hlights := hrooms.restock (Defaults.lights className) (by omega)
  have hfeatures := hlights.restock settings.features (by omega)
  rwa [Nat.zero_add] at hfeatures

/-- Scaling the radii draws no number. -/
theorem draws_applyProfile (h : a.elements.Numbered) (p : LearnedProfile α) (blend : α) :
    a.elements.Draws 0 (a.applyProfile p blend).elements := by
  unfold applyProfile
  dsimp only
  split
  · exact h.draws_refl
  · have hscaled : ∀ (factor : α) (c : ControlPoint α),
        (Tagged.part c).Same (Tagged.part { c with radius := c.radius * factor }) := fun _ _ => by
      rfl
    exact h.draws_map (hscaled _)

end Scalar

variable [Trigonometric α] {a : Assembly α}

/-- An operation on a ship draws the numbers it takes from the source, as long as there are so
many. -/
theorem draws_apply (h : a.elements.Numbered) (op : Op α)
    (hfew : a.elements.next + op.allocated < 2 ^ 32) :
    a.elements.Draws op.allocated (a.apply op).elements := by
  cases op with
  | addNode kind => exact h.draws_refl
  | setProperty id key value => exact h.draws_refl
  | removeNode id => exact h.draws_refl
  | addEdge e => exact h.draws_refl
  | removeEdge e => exact h.draws_refl
  | usePipeline segments => exact h.draws_refl
  | compile => exact h.draws_refl
  | execute => exact h.draws_refl
  | add part => cases part <;> exact h.draws_add _ hfew
  | remove kind id => cases kind <;> exact draws_remove h id
  | move kind id position => cases kind <;> exact draws_modify h id fun _ => by rfl
  | setRadius id radius => exact draws_modify h id fun _ => by rfl
  | generate seed className settings =>
    exact (restocks_generate h seed className settings hfew).toDraws
  | importDesign d => exact (restocks_importDesign h d hfew).toDraws
  | applyProfile p blend => exact draws_applyProfile h p blend
  | record e => exact h.draws_refl
  | clone => exact h.draws_refl

/-- Operations on a ship draw the numbers they take from the source, as long as there are so
many. -/
theorem draws_applyAll (h : a.elements.Numbered) (ops : List (Op α))
    (hfew : a.elements.next + (ops.map Op.allocated).sum < 2 ^ 32) :
    a.elements.Draws (ops.map Op.allocated).sum (a.applyAll ops).elements := by
  induction ops generalizing a with
  | nil => exact h.draws_refl
  | cons op ops ih =>
    rw [List.map_cons, List.sum_cons] at hfew ⊢
    have hop := draws_apply h op (by omega)
    have hnext := hop.next_eq
    exact hop.trans (ih hop.numbered (by omega))

/-- An operation hands out a number: the one it answers, or one that it stamps on an element that it
puts in the place of those before. -/
def HandsOut (a : Assembly α) (op : Op α) (k : Nat) : Prop :=
  match op with
  | .add part => k = (a.addPart part).2.val.toNat
  | .generate .. | .importDesign _ => ∃ kind, k ∈ (a.apply op).elements.numbers kind
  | _ => False

/-- A number that is handed out comes from the source. -/
theorem next_le_of_handsOut (h : a.elements.Numbered) {op : Op α} {k : Nat}
    (hfew : a.elements.next + op.allocated < 2 ^ 32) (hk : a.HandsOut op k) :
    a.elements.next ≤ k := by
  cases op with
  | add part =>
    have hk : k = a.elements.next := by cases part <;> exact hk
    exact Nat.le_of_eq hk.symm
  | generate seed className settings =>
    obtain ⟨kind, hk⟩ := hk
    exact (restocks_generate h seed className settings hfew).renewed kind
      (by cases kind <;> decide) k hk
  | importDesign d =>
    obtain ⟨kind, hk⟩ := hk
    exact (restocks_importDesign h d hfew).renewed kind (by cases kind <;> decide) k hk
  | _ => exact hk.elim

/-- The empty ship is numbered well. -/
theorem numbered_empty {α : Type} : (empty : Assembly α).elements.Numbered := by
  have hnone : ∀ kind, (empty : Assembly α).elements.numbers kind = [] := by
    intro kind
    cases kind <;> rfl
  refine ⟨?_, ?_, ?_, ?_, Nat.le_refl 1⟩ <;> simp [hnone]

/-- At each point of a run of operations on the empty ship the elements are numbered well, and from
there on the run draws numbers. -/
theorem draws_of_prefix {before ops : List (Op α)} (hleads : before <+: ops)
    (hfew : (ops.map Op.allocated).sum < 2 ^ 32 - 1) :
    (empty.applyAll before).elements.Numbered ∧
      ∃ count, (empty.applyAll before).elements.Draws count (empty.applyAll ops).elements := by
  obtain ⟨after, rfl⟩ := hleads
  rw [List.map_append, List.sum_append] at hfew
  have hnext : (empty : Assembly α).elements.next = 1 := rfl
  have hbefore := draws_applyAll numbered_empty before (by omega)
  have hafter := draws_applyAll hbefore.numbered after (by rw [hbefore.next_eq]; omega)
  have happend : (empty : Assembly α).applyAll (before ++ after) =
      (empty.applyAll before).applyAll after := List.foldl_append ..
  exact ⟨hbefore.numbered, _, happend ▸ hafter⟩

/-- As long as the numbers do not run out, whatever operations have made of a ship, the elements of
each kind have ascending numbers, no two kinds share one, and all of them lie between one and the
next to be handed out. Any number that was handed out or stamped was greater than every number there
had ever been, and a number from before names the element it named then, if it names one at all. -/
theorem numbered_applyAll (ops : List (Op α)) (hfew : (ops.map Op.allocated).sum < 2 ^ 32 - 1) :
    let elementsAfter := fun ops : List (Op α) => ((empty : Assembly α).applyAll ops).elements
    (∀ kind, ((elementsAfter ops).numbers kind).Pairwise (· < ·)) ∧
    (∀ kind kind', kind ≠ kind' →
      List.Disjoint ((elementsAfter ops).numbers kind) ((elementsAfter ops).numbers kind')) ∧
    (∀ kind, ∀ k ∈ (elementsAfter ops).numbers kind, 1 ≤ k ∧ k < (elementsAfter ops).next) ∧
    (∀ before op after, ops = before ++ op :: after →
      ∀ k, (empty.applyAll before).HandsOut op k → ∀ earlier, earlier <+: before →
        ∀ kind, ∀ j ∈ (elementsAfter earlier).numbers kind, j < k) ∧
    ∀ before, before <+: ops → ∀ kind, ∀ p ∈ (elementsAfter ops).on kind,
      p.number < (elementsAfter before).next → ∃ q ∈ (elementsAfter before).on kind, q.Same p := by
  intro elementsAfter
  obtain ⟨hnumbered, -⟩ := draws_of_prefix (List.prefix_refl ops) hfew
  refine ⟨hnumbered.ascending, hnumbered.apart,
    fun kind k hk => ⟨hnumbered.positive kind k hk, hnumbered.below kind k hk⟩, ?_, ?_⟩
  · rintro before op after rfl k hk earlier hearlier kind j hj
    rw [List.map_append, List.sum_append, List.map_cons, List.sum_cons] at hfew
    have hnext : (empty : Assembly α).elements.next = 1 := rfl
    have hbefore := draws_applyAll numbered_empty before (by omega)
    obtain ⟨hstart, _, hlater⟩ := draws_of_prefix hearlier (by omega)
    calc j < (elementsAfter earlier).next := hstart.below kind j hj
      _ ≤ (elementsAfter before).next := hlater.next_le
      _ ≤ k := next_le_of_handsOut hbefore.numbered (by rw [hbefore.next_eq]; omega) hk
  · intro before hbefore
    obtain ⟨-, _, hdraws⟩ := draws_of_prefix hbefore hfew
    exact hdraws.same

/-- A light is placed on a ship after a hardpoint, and then another one in its place. -/
def relit : List (Op Single) :=
  [.add (.hardpoint default), .add (.light default), .remove .light ⟨2⟩, .add (.light default)]

/-- The second light has the number three, which is greater than all there were before, and no
element has the number two any more. -/
theorem numbered_relit :
    (relit.map Op.allocated).sum = 3 ∧
    (empty.applyAll relit).elements.numbers .light = [3] ∧
    ((empty.applyAll relit).elements.numbers .light).Pairwise (· < ·) ∧
    List.Disjoint ((empty.applyAll relit).elements.numbers .hardpoint)
      ((empty.applyAll relit).elements.numbers .light) ∧
    (∀ k ∈ (empty.applyAll relit).elements.numbers .light,
      1 ≤ k ∧ k < (empty.applyAll relit).elements.next) ∧
    (∀ kind, ∀ j ∈ (empty.applyAll (relit.take 2)).elements.numbers kind, j < 3) ∧
    ∀ p ∈ (empty.applyAll relit).elements.on .light, p.number ≠ 2 := by
  obtain ⟨hascending, hapart, hrange, hfresh, hsame⟩ := numbered_applyAll relit (by decide)
  have hbefore : relit.take 2 <+: relit.take 3 := ⟨[.remove .light ⟨2⟩], rfl⟩
  have hafter : relit.take 3 <+: relit := List.take_prefix 3 relit
  refine ⟨rfl, rfl, hascending .light, hapart .hardpoint .light (by decide), hrange .light,
    hfresh (relit.take 3) (.add (.light default)) [] rfl 3 rfl (relit.take 2) hbefore, ?_⟩
  intro p hp hnumber
  obtain ⟨q, hq, -⟩ := hsame (relit.take 3) hafter .light p hp (hnumber ▸ by decide)
  exact nomatch hq

end Assembly

end Shipwright
