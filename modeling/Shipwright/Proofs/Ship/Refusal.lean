import Shipwright.Proofs.Ship.Identity

/-!
# An edit happens as a whole or not at all

A session removes, moves and resizes elements by their numbers. Where no element of the
kind has the number, the edit is refused and the session is left as it was, in every
part. Where one has it, that element alone is changed, the compiled order becomes stale,
the session is dirty and one record is written. A number that belongs to another kind,
or to an element that was removed, is refused by all of these edits.
-/

namespace Shipwright

variable {α : Type}

/-- Changing the first element with some property leaves those around it alone. -/
theorem modifyFirst_append {ε : Type} {p : ε → Bool} {f : ε → ε} {before after : List ε} {e : ε}
    (hbefore : ∀ x ∈ before, p x = false) (he : p e = true) :
    modifyFirst p f (before ++ e :: after) = before ++ f e :: after := by
  induction before with
  | nil => simp [modifyFirst, he]
  | cons x before ih =>
    rw [List.forall_mem_cons] at hbefore
    simp [modifyFirst, hbefore.1, ih hbefore.2]

namespace Store

variable {ε : Type} [Element ε] {s : Store ε} {id : ElementId}

/-- Nothing is found under a number just if no element has it. -/
theorem get?_eq_none_iff : s.get? id = none ↔ ∀ e ∈ s.items, Element.id e ≠ id := by
  simp [get?, hasId]

/-- What is found under a number is the first element that has it. -/
theorem get?_eq_some_iff {e : ε} : s.get? id = some e ↔ Element.id e = id ∧
    ∃ before after, s.items = before ++ e :: after ∧ ∀ x ∈ before, Element.id x ≠ id := by
  simp [get?, hasId, List.find?_eq_some_iff_append]

end Store

namespace Session

/-- An edit of the element that has a number. -/
inductive Change (α : Type) where
  /-- Removes the element. -/
  | remove (kind : PartKind)
  /-- Moves the element. -/
  | move (kind : MovableKind) (position : Vec3 α)
  /-- Resizes the element, which is a control point. -/
  | setRadius (radius : α)

/-- The kind of element that is edited. -/
def Change.kind : Change α → PartKind
  | .remove kind => kind
  | .move .controlPoint _ => .controlPoint
  | .move .hardpoint _ => .hardpoint
  | .move .light _ => .light
  | .setRadius _ => .controlPoint

/-- What an edit makes of an element, if it leaves it on the ship, and what is recorded: the kind of
edit and the values before and after it. -/
inductive Change.Makes [Scalar α] :
    Change α → Part α → Option (Part α) → EditKind → Vec3 α → Vec3 α → Prop
  /-- A removed control point leads from its place to the origin. -/
  | removeControlPoint (e : ControlPoint α) :
    Makes (.remove .controlPoint) (.controlPoint e) none .removeElement e.position .zero
  /-- A removed hardpoint leads from its place to the origin. -/
  | removeHardpoint (e : Hardpoint α) :
    Makes (.remove .hardpoint) (.hardpoint e) none .removeElement e.position .zero
  /-- A removed light leads from its place to the origin. -/
  | removeLight (e : Light α) :
    Makes (.remove .light) (.light e) none .removeElement e.position .zero
  /-- A removed room leads from its middle to the origin. -/
  | removeRoom (e : Room α) :
    Makes (.remove .room) (.room e) none .removeElement e.center .zero
  /-- A removed feature leads from its place to the origin. -/
  | removeFeature (e : Feature α) :
    Makes (.remove .feature) (.feature e) none .removeElement e.position .zero
  /-- A moved control point leads from the one place to the other. -/
  | moveControlPoint (e : ControlPoint α) (position : Vec3 α) :
    Makes (.move .controlPoint position) (.controlPoint e)
      (some (.controlPoint { e with position })) .moveControlPoint e.position position
  /-- A moved hardpoint leads from the one place to the other. -/
  | moveHardpoint (e : Hardpoint α) (position : Vec3 α) :
    Makes (.move .hardpoint position) (.hardpoint e)
      (some (.hardpoint { e with position })) .moveHardpoint e.position position
  /-- A moved light leads from the one place to the other. -/
  | moveLight (e : Light α) (position : Vec3 α) :
    Makes (.move .light position) (.light e)
      (some (.light { e with position })) .moveLight e.position position
  /-- Radii are recorded in the x component. -/
  | setRadius (e : ControlPoint α) (radius : α) :
    Makes (.setRadius radius) (.controlPoint e)
      (some (.controlPoint { e with radius })) .resizeControlPoint ⟨e.radius, 0.0, 0.0⟩
      ⟨radius, 0.0, 0.0⟩

/-- An element of some kind on the ship has a number. -/
def Holds (s : Session α) (kind : PartKind) (id : ElementId) : Prop :=
  ∃ p ∈ s.assembly.elements.on kind, p.number = id.val.toNat

/-- The one session becomes the other by an edit of one element. -/
structure Changed (s : Session α) (kind : PartKind) (id : ElementId) (p : Part α)
    (p' : Option (Part α)) (edit : Edit α) (s' : Session α) : Prop where
  /-- The first element with the number is changed or gone; the others of its kind are as they were,
  in the same order. -/
  items : ∃ before after, s.assembly.elements.on kind = before ++ p :: after ∧
    p.number = id.val.toNat ∧ (∀ q ∈ before, q.number ≠ id.val.toNat) ∧
    s'.assembly.elements.on kind = before ++ p'.toList ++ after
  /-- The elements of other kinds are as they were. -/
  others : ∀ kind' ≠ kind, s'.assembly.elements.on kind' = s.assembly.elements.on kind'
  /-- No number is drawn. -/
  ids : s'.assembly.elements.ids = s.assembly.elements.ids
  /-- The compiled order is stale; stages, edges, order and cached meshes are as they were. -/
  graph : s'.assembly.graph = s.assembly.graph.invalidate
  /-- One record is written. -/
  history : s'.assembly.history = s.assembly.history ++ [edit]
  /-- The session is dirty. -/
  dirty : s'.dirty = true
  /-- The ship is who it was. -/
  identity : s'.id = s.id ∧ s'.name = s.name ∧ s'.className = s.className ∧ s'.seed = s.seed ∧
    s'.settings = s.settings

/-- A number that is held by one kind is held by no other. -/
theorem not_holds_of_ne {s : Session α} (h : s.assembly.elements.Numbered)
    {kind kind' : PartKind} {id : ElementId} (hne : kind ≠ kind') (hid : s.Holds kind id) :
    ¬ s.Holds kind' id := by
  rintro ⟨q, hq, hqid⟩
  obtain ⟨p, hp, hpid⟩ := hid
  have hmem := List.mem_map_of_mem (f := Part.number) hp
  have hmem' := List.mem_map_of_mem (f := Part.number) hq
  rw [hpid] at hmem
  rw [hqid] at hmem'
  exact h.apart kind kind' hne hmem hmem'

/-- The number of an element that has gone is held by no kind. -/
theorem Changed.not_holds {s s' : Session α} {kind : PartKind} {id : ElementId} {p : Part α}
    {edit : Edit α} (hchanged : s.Changed kind id p none edit s')
    (h : s.assembly.elements.Numbered) (kind' : PartKind) : ¬ s'.Holds kind' id := by
  obtain ⟨before, after, hitems, hid, hbefore, hitems'⟩ := hchanged.items
  have hp : s.Holds kind id := ⟨p, by simp [hitems], hid⟩
  by_cases hkind : kind' = kind
  · subst hkind
    have hascending := h.ascending kind'
    rw [Elements.numbers, hitems, List.map_append, List.map_cons, List.pairwise_append]
      at hascending
    rw [Option.toList_none, List.append_nil] at hitems'
    rintro ⟨q, hq, hqid⟩
    rw [hitems'] at hq
    rcases List.mem_append.mp hq with hq | hq
    · exact hbefore q hq hqid
    · have := (List.pairwise_cons.mp hascending.2.1).1 q.number (List.mem_map_of_mem hq)
      omega
  · rw [Holds, hchanged.others kind' hkind]
    exact not_holds_of_ne h (Ne.symm hkind) hp

/-- Recording an edit leaves the elements alone. -/
theorem elements_recorded (s : Session α) (kind : EditKind) (id : ElementId) (new : Vec3 α)
    (now : UInt64) (r : Assembly α × Option (Vec3 α)) :
    (s.recorded kind id new now r).1.assembly.elements = r.1.elements := by
  obtain ⟨a, old⟩ := r
  cases old <;> rfl

section Kind

variable {ε : Type} [Element ε] [Fitting α ε] [Tagged α ε] {s : Session α} {id : ElementId}

/-- An element of a kind has a number just if something is found under it. -/
theorem holds_kind_iff : s.Holds (Tagged.kind ε) id ↔
    ∃ e, (Fitting.store s.assembly.elements : Store ε).get? id = some e := by
  have hnumber : ∀ e : ε, (Tagged.part e).number = id.val.toNat ↔ Element.id e = id := fun e => by
    rw [Tagged.number_part, Element.number, UInt32.toNat_inj]
    exact ⟨congrArg ElementId.mk, congrArg ElementId.val⟩
  rw [← Option.isSome_iff_exists, ← Option.ne_none_iff_isSome, ne_eq, Store.get?_eq_none_iff]
  simp [Holds, Tagged.on_kind, hnumber]

/-- What comes of an edit that puts other elements of a kind in the place of one, and finds a value
of that one to be recorded. -/
theorem changed_recorded {e : ε} {e' : Option ε} {before after : List ε} (store : Store ε)
    (hitems : (Fitting.store s.assembly.elements : Store ε).items = before ++ e :: after)
    (hid : Element.id e = id) (hbefore : ∀ x ∈ before, Element.id x ≠ id)
    (hstore : store.items = before ++ e'.toList ++ after) (kind : EditKind) (old new : Vec3 α)
    (now : UInt64) :
    ∃ s', s.recorded kind id new now
        (s.assembly.withElements (Fitting.withStore s.assembly.elements store), some old) =
        (s', true) ∧
      s.Changed (Tagged.kind ε) id (Tagged.part e) (e'.map Tagged.part)
        ⟨kind, s.className, id, old, new, now⟩ s' := by
  have hnumber : ∀ x : ε, (Tagged.part x).number = (Element.id x).val.toNat := Tagged.number_part
  refine ⟨_, rfl, ⟨⟨before.map Tagged.part, after.map Tagged.part, ?_, ?_, ?_, ?_⟩,
    Tagged.on_withStore _ _, Fitting.ids_withStore .., rfl, rfl, rfl, rfl, rfl, rfl, rfl, rfl⟩⟩
  · rw [Tagged.on_kind, hitems, List.map_append, List.map_cons]
  · rw [hnumber, hid]
  · rw [List.forall_mem_map]
    intro x hx heq
    rw [hnumber, UInt32.toNat_inj] at heq
    exact hbefore x hx (congrArg ElementId.mk heq)
  · refine (Tagged.on_kind _).trans ?_
    rw [Assembly.record, Assembly.withElements, Fitting.store_withStore, hstore]
    cases e' <;> simp

variable [Scalar α] {c : Change α}

/-- What comes of an edit of the element of a number: it is refused where no element of its kind has
the number, and happens as a whole where one has it. -/
def Change.WholeOrNot (c : Change α) (s : Session α) (id : ElementId) (now : UInt64)
    (r : Session α × Bool) : Prop :=
  (¬ s.Holds c.kind id → r = (s, false)) ∧
  (s.Holds c.kind id → ∃ p p' kind old new s', r = (s', true) ∧ c.Makes p p' kind old new ∧
    s.Changed c.kind id p p' ⟨kind, s.className, id, old, new, now⟩ s')

/-- Removing an element is refused or happens as a whole. -/
theorem wholeOrNot_remove (s : Session α) (id : ElementId) (now : UInt64) {site : ε → Vec3 α}
    (hkind : c.kind = Tagged.kind ε)
    (hmakes : ∀ e, c.Makes (Tagged.part e) none .removeElement (site e) .zero) :
    c.WholeOrNot s id now (s.remove site id now) := by
  rw [Change.WholeOrNot, hkind, holds_kind_iff]
  cases hget : (Fitting.store s.assembly.elements : Store ε).get? id with
  | none =>
    refine ⟨fun _ => ?_, fun ⟨_, h⟩ => nomatch h⟩
    simp only [remove, Assembly.remove, Elements.remove, Store.remove, hget, Option.map_none,
      recorded]
  | some e =>
    obtain ⟨hid, before, after, hitems, hbefore⟩ := Store.get?_eq_some_iff.mp hget
    have herased : (Fitting.store s.assembly.elements : Store ε).items.eraseP (Store.hasId id) =
        before ++ (none : Option ε).toList ++ after := by
      rw [hitems, List.eraseP_append_right _ (by simpa [Store.hasId] using hbefore),
        List.eraseP_cons_of_pos (by simp [Store.hasId, hid]), Option.toList_none, List.append_nil]
    obtain ⟨s', hs', hchanged⟩ := changed_recorded ⟨_⟩ hitems hid hbefore herased
      .removeElement (site e) .zero now
    refine ⟨fun h => absurd ⟨e, rfl⟩ h, fun _ => ⟨_, _, _, _, _, s', ?_, hmakes e, hchanged⟩⟩
    simpa only [remove, Assembly.remove, Elements.remove, Store.remove, hget, Option.map_some]
      using hs'

/-- Changing an element in place is refused or happens as a whole. -/
theorem wholeOrNot_modify (s : Session α) (id : ElementId) (now : UInt64) {kind : EditKind}
    {f : ε → ε} {value : ε → Vec3 α} {new : Vec3 α} (hkind : c.kind = Tagged.kind ε)
    (hmakes : ∀ e, c.Makes (Tagged.part e) (some (Tagged.part (f e))) kind (value e) new) :
    c.WholeOrNot s id now (s.recorded kind id new now
      ((s.assembly.modify id f).1, (s.assembly.modify id f).2.map value)) := by
  rw [Change.WholeOrNot, hkind, holds_kind_iff]
  cases hget : (Fitting.store s.assembly.elements : Store ε).get? id with
  | none =>
    refine ⟨fun _ => ?_, fun ⟨_, h⟩ => nomatch h⟩
    simp only [Assembly.modify, hget, Option.map_none, recorded]
  | some e =>
    obtain ⟨hid, before, after, hitems, hbefore⟩ := Store.get?_eq_some_iff.mp hget
    have hmodified : (Store.modify (Fitting.store s.assembly.elements : Store ε) id f).items =
        before ++ (some (f e)).toList ++ after := by
      rw [Store.modify, hitems, modifyFirst_append (by simpa [Store.hasId] using hbefore)
        (by simp [Store.hasId, hid]), Option.toList_some, List.append_assoc,
        List.singleton_append]
    obtain ⟨s', hs', hchanged⟩ := changed_recorded _ hitems hid hbefore hmodified kind (value e)
      new now
    refine ⟨fun h => absurd ⟨e, rfl⟩ h, fun _ => ⟨_, _, _, _, _, s', ?_, hmakes e, hchanged⟩⟩
    simpa only [Assembly.modify, hget, Option.map_some] using hs'

end Kind

variable [Trigonometric α]

/-- The session after an edit, and whether there was such an element. -/
def change (s : Session α) (id : ElementId) (now : UInt64) : Change α → Session α × Bool
  | .remove kind => s.removePart id now kind
  | .move kind position => s.movePart id position now kind
  | .setRadius radius => s.setRadius id radius now

/-- Each edit is refused or happens as a whole. -/
theorem wholeOrNot_change (s : Session α) (id : ElementId) (now : UInt64) (c : Change α) :
    c.WholeOrNot s id now (s.change id now c) := by
  cases c with
  | remove kind =>
    cases kind with
    | controlPoint => exact wholeOrNot_remove s id now rfl .removeControlPoint
    | hardpoint => exact wholeOrNot_remove s id now rfl .removeHardpoint
    | light => exact wholeOrNot_remove s id now rfl .removeLight
    | room => exact wholeOrNot_remove s id now rfl .removeRoom
    | feature => exact wholeOrNot_remove s id now rfl .removeFeature
  | move kind position =>
    cases kind with
    | controlPoint => exact wholeOrNot_modify s id now rfl (.moveControlPoint · position)
    | hardpoint => exact wholeOrNot_modify s id now rfl (.moveHardpoint · position)
    | light => exact wholeOrNot_modify s id now rfl (.moveLight · position)
  | setRadius radius =>
    have hmakes : ∀ e : ControlPoint α, Change.Makes (.setRadius radius) (Tagged.part e)
        (some (Tagged.part { e with radius })) .resizeControlPoint
        ((radiusValue ∘ ControlPoint.radius) e) (radiusValue radius) := (.setRadius · radius)
    have h := wholeOrNot_modify s id now rfl hmakes
    rwa [← Option.map_map] at h

/-- The numbers that a method of a session takes from the source. -/
def Op.allocated : Op α → Nat
  | .add .. => 1
  | _ => 0

/-- Generating the mesh leaves the elements alone. -/
theorem elements_generate (s : Session α) :
    s.generate.1.assembly.elements = s.assembly.elements := by
  obtain ⟨graph, h⟩ := s.exists_generate_eq_withGraph
  rw [h]

variable [Ron.Codec α]

/-- A method of a session draws the numbers it takes from the source, as long as there are so
many. -/
theorem draws_apply {s : Session α} (h : s.assembly.elements.Numbered) (op : Op α)
    (hfew : s.assembly.elements.next + op.allocated < 2 ^ 32) :
    s.assembly.elements.Draws op.allocated (s.apply op).assembly.elements := by
  cases op with
  | add part now => cases part <;> exact h.draws_add _ hfew
  | remove kind id now =>
    cases kind <;>
      exact (elements_recorded ..).symm ▸ Assembly.draws_remove h id
  | move kind id position now =>
    cases kind <;>
      exact (elements_recorded ..).symm ▸ Assembly.draws_modify h id fun _ => by rfl
  | setRadius id radius now =>
    simp only [Session.apply, setRadius, elements_recorded]
    exact Assembly.draws_modify h id fun _ => by rfl
  | applyLearning library =>
    simp only [Session.apply, applyLearning]
    split
    · exact Assembly.draws_applyProfile h ..
    · exact h.draws_refl
  | rename name => exact h.draws_refl
  | markClean => exact h.draws_refl
  | saveTo disk folder =>
    simp only [Session.apply]
    rcases s.fst_saveTo disk folder with hsaved | hsaved <;> rw [hsaved] <;> exact h.draws_refl
  | generate => exact s.elements_generate.symm ▸ h.draws_refl
  | clone => exact h.draws_refl

/-- Methods of a session draw the numbers they take from the source, as long as there are so
many. -/
theorem draws_applyAll {s : Session α} (h : s.assembly.elements.Numbered) (ops : List (Op α))
    (hfew : s.assembly.elements.next + (ops.map Op.allocated).sum < 2 ^ 32) :
    s.assembly.elements.Draws (ops.map Op.allocated).sum (s.applyAll ops).assembly.elements := by
  induction ops generalizing s with
  | nil => exact h.draws_refl
  | cons op ops ih =>
    rw [List.map_cons, List.sum_cons] at hfew ⊢
    have hop := draws_apply h op (by omega)
    have hnext := hop.next_eq
    exact hop.trans (ih hop.numbered (by omega))

/-- The number of an element that is removed is held by no kind again, as long as the numbers do not
run out. -/
theorem not_holds_of_removed {s : Session α} (h : s.assembly.elements.Numbered)
    {kind : PartKind} {id : ElementId} (hid : s.Holds kind id) (now : UInt64) (ops : List (Op α))
    (hfew : s.assembly.elements.next + (ops.map Op.allocated).sum < 2 ^ 32) (kind' : PartKind) :
    ¬ ((s.removePart id now kind).1.applyAll ops).Holds kind' id := by
  obtain ⟨p, p', editKind, old, new, s', hs', hmakes, hchanged⟩ :=
    (s.wholeOrNot_change id now (.remove kind)).2 hid
  have hp' : p' = none := by cases hmakes <;> rfl
  subst hp'
  have hs' : s.removePart id now kind = (s', true) := hs'
  rw [hs']
  have hremoved : s.assembly.elements.Draws 0 s'.assembly.elements := by
    have hdraws := draws_apply h (.remove kind id now) (by simp only [Op.allocated]; omega)
    rwa [show s.apply (.remove kind id now) = s' from congrArg Prod.fst hs'] at hdraws
  have hnext := hremoved.next_eq
  have hlater := draws_applyAll hremoved.numbered ops (by omega)
  rintro ⟨q, hq, hqid⟩
  obtain ⟨r, hr, hrid⟩ := hid
  have hbelow := h.below kind r.number (List.mem_map_of_mem hr)
  obtain ⟨q', hq', hsame⟩ := hlater.same kind' q hq (by omega)
  exact hchanged.not_holds h kind' ⟨q', hq', hsame.number_eq ▸ hqid⟩

/-- A session on a ship with the hardpoint 1 and the light 2. -/
def signalled : Session Single :=
  { (newShip "ship" "Corvette" 7 .standard : Session Single) with
    assembly := Assembly.empty.applyAll [.add (.hardpoint default), .add (.light default)] }

end Session

end Shipwright
