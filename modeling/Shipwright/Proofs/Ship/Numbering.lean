import Shipwright.Proofs.Ship.Operation
import Mathlib.Algebra.Ring.Nat
import Mathlib.Data.List.Basic

/-!
# The numbers of elements

What it means for the elements of a ship to be numbered well: ascending within each kind,
apart between kinds, and all of them handed out already. Every change of the elements
draws some fresh numbers, and whatever bears an older number afterwards is an element
that had it before. Nothing of this survives the source running past its last number,
so every statement here says how many numbers are still to be had.
-/

namespace Shipwright

variable {α : Type}

/-- The number of an element. -/
def Element.number {ε : Type} [Element ε] (e : ε) : Nat := (Element.id e).val.toNat

namespace Part

/-- The number of a part. -/
def number : Part α → Nat
  | .controlPoint e => Element.number e
  | .hardpoint e => Element.number e
  | .light e => Element.number e
  | .room e => Element.number e
  | .feature e => Element.number e

/-- The one part is the other, at another place perhaps, or with another radius. -/
def Same : Part α → Part α → Prop
  | .controlPoint e, .controlPoint e' =>
    e' = { e with position := e'.position, radius := e'.radius }
  | .hardpoint e, .hardpoint e' => e' = { e with position := e'.position }
  | .light e, .light e' => e' = { e with position := e'.position }
  | .room e, .room e' => e' = e
  | .feature e, .feature e' => e' = e
  | _, _ => False

variable {p q r : Part α}

/-- A part is the same as itself. -/
theorem Same.refl (p : Part α) : p.Same p := by
  cases p <;> rfl

/-- A part that is the same keeps its number. -/
theorem Same.number_eq (h : p.Same q) : q.number = p.number := by
  cases p <;> cases q <;> first | exact h.elim | exact (congrArg Element.number h).trans rfl

/-- Two changes of a part are one. -/
theorem Same.trans (hpq : p.Same q) (hqr : q.Same r) : p.Same r := by
  cases p <;> cases q <;> first | exact hpq.elim | skip
  all_goals cases r <;> first | exact hqr.elim | skip
  all_goals
    simp only [Same] at hpq hqr ⊢
    rw [hqr, hpq]

end Part

namespace Elements

/-- The parts of one kind in the order of their store. -/
def on (s : Elements α) : PartKind → List (Part α)
  | .controlPoint => s.controlPoints.items.map .controlPoint
  | .hardpoint => s.hardpoints.items.map .hardpoint
  | .light => s.lights.items.map .light
  | .room => s.rooms.items.map .room
  | .feature => s.features.items.map .feature

/-- The numbers of the elements of one kind in the order of their store. -/
def numbers (s : Elements α) (kind : PartKind) : List Nat := (s.on kind).map Part.number

/-- The number that the next element gets. -/
def next (s : Elements α) : Nat := s.ids.next.toNat

/-- The elements of a ship are numbered well. -/
structure Numbered (s : Elements α) : Prop where
  /-- Within a kind the numbers ascend. -/
  ascending : ∀ kind, (s.numbers kind).Pairwise (· < ·)
  /-- No two kinds share a number. -/
  apart : ∀ kind kind', kind ≠ kind' → List.Disjoint (s.numbers kind) (s.numbers kind')
  /-- No element has the number zero. -/
  positive : ∀ kind, ∀ k ∈ s.numbers kind, 1 ≤ k
  /-- All numbers have been handed out already. -/
  below : ∀ kind, ∀ k ∈ s.numbers kind, k < s.next
  /-- The source is past zero. -/
  started : 1 ≤ s.next

/-- The one state of the elements leads to the other and draws some fresh numbers. -/
structure Draws (s : Elements α) (count : Nat) (s' : Elements α) : Prop where
  /-- So many numbers have been handed out. -/
  next_eq : s'.next = s.next + count
  /-- The elements are numbered well afterwards. -/
  numbered : s'.Numbered
  /-- What bears an older number is the element that had it before. -/
  same : ∀ kind, ∀ p ∈ s'.on kind, p.number < s.next → ∃ q ∈ s.on kind, q.Same p

variable {s s' s'' : Elements α}

/-- Where nothing happens no number is drawn. -/
theorem Numbered.draws_refl (h : s.Numbered) : s.Draws 0 s :=
  ⟨rfl, h, fun _ p hp _ => ⟨p, hp, .refl p⟩⟩

/-- The next number never goes down. -/
theorem Draws.next_le {count : Nat} (h : s.Draws count s') : s.next ≤ s'.next :=
  h.next_eq ▸ Nat.le_add_right ..

/-- Changes in a row draw their numbers together. -/
theorem Draws.trans {m n : Nat} (h : s.Draws m s') (h' : s'.Draws n s'') :
    s.Draws (m + n) s'' := by
  refine ⟨by rw [h'.next_eq, h.next_eq, Nat.add_assoc], h'.numbered, fun kind p hp hnumber => ?_⟩
  have hlater : p.number < s'.next := by
    rw [h.next_eq]
    omega
  obtain ⟨q, hq, hqp⟩ := h'.same kind p hp hlater
  obtain ⟨r, hr, hrq⟩ := h.same kind q hq (hqp.number_eq ▸ hnumber)
  exact ⟨r, hr, hrq.trans hqp⟩

/-- A change of one kind of element draws fresh numbers if the others stay as they are, the numbers
of the kind ascend, and each element of it is an old one or has one of the fresh numbers. -/
theorem Numbered.draws_of_kind (h : s.Numbered) (kind : PartKind) {count : Nat}
    (hnext : s'.next = s.next + count) (hother : ∀ kind' ≠ kind, s'.on kind' = s.on kind')
    (hascending : (s'.numbers kind).Pairwise (· < ·))
    (horigin : ∀ p ∈ s'.on kind, (∃ q ∈ s.on kind, q.Same p) ∨
      s.next ≤ p.number ∧ p.number < s.next + count) : s.Draws count s' := by
  have hnumbers : ∀ kind' ≠ kind, s'.numbers kind' = s.numbers kind' := fun kind' hne => by
    rw [numbers, hother kind' hne, numbers]
  have hnumber : ∀ k ∈ s'.numbers kind,
      k ∈ s.numbers kind ∨ s.next ≤ k ∧ k < s.next + count := by
    intro k hk
    obtain ⟨p, hp, rfl⟩ := List.mem_map.mp hk
    rcases horigin p hp with ⟨q, hq, hqp⟩ | hfresh
    · exact .inl (List.mem_map.mpr ⟨q, hq, hqp.number_eq.symm⟩)
    · exact .inr hfresh
  have hapart : ∀ kind' ≠ kind, List.Disjoint (s'.numbers kind) (s'.numbers kind') := by
    intro kind' hne k hk hk'
    rw [hnumbers kind' hne] at hk'
    rcases hnumber k hk with hold | ⟨hfresh, _⟩
    · exact h.apart kind kind' hne.symm hold hk'
    · have := h.below kind' k hk'
      omega
  have hrange : ∀ kind', ∀ k ∈ s'.numbers kind', 1 ≤ k ∧ k < s.next + count := by
    intro kind' k hk
    have hold : ∀ kind', k ∈ s.numbers kind' → 1 ≤ k ∧ k < s.next + count := fun kind' hk =>
      ⟨h.positive kind' k hk, Nat.lt_add_right count (h.below kind' k hk)⟩
    by_cases hkind : kind' = kind
    · subst hkind
      rcases hnumber k hk with hk | ⟨hfresh, hlt⟩
      · exact hold kind' hk
      · exact ⟨Nat.le_trans h.started hfresh, hlt⟩
    · exact hold kind' (hnumbers kind' hkind ▸ hk)
  refine ⟨hnext, ⟨?_, ?_, ?_, ?_, ?_⟩, ?_⟩
  · intro kind'
    by_cases hkind : kind' = kind
    · rwa [hkind]
    · rw [hnumbers kind' hkind]
      exact h.ascending kind'
  · intro a b hab
    by_cases ha : a = kind
    · subst ha
      exact hapart b hab.symm
    · by_cases hb : b = kind
      · subst hb
        exact fun k hk hk' => hapart a ha hk' hk
      · rw [hnumbers a ha, hnumbers b hb]
        exact h.apart a b hab
  · exact fun kind' k hk => (hrange kind' k hk).1
  · exact fun kind' k hk => hnext ▸ (hrange kind' k hk).2
  · have := h.started
    omega
  · intro kind' p hp hold
    by_cases hkind : kind' = kind
    · subst hkind
      rcases horigin p hp with hsame | ⟨hfresh, _⟩
      · exact hsame
      · omega
    · rw [hother kind' hkind] at hp
      exact ⟨p, hp, .refl p⟩

end Elements

/-- A change of single elements that keeps their numbers keeps the numbers of a list. -/
theorem map_number_modifyFirst {ε : Type} [Element ε] {p : ε → Bool} {f : ε → ε}
    (hf : ∀ e, Element.number (f e) = Element.number e) (es : List ε) :
    (modifyFirst p f es).map Element.number = es.map Element.number := by
  induction es with
  | nil => rfl
  | cons e es ih =>
    unfold modifyFirst
    split
    · rw [List.map_cons, hf, List.map_cons]
    · rw [List.map_cons, ih, List.map_cons]

/-- What is in a list after a change of a single element was there before, or is what an element of
it has become. -/
theorem mem_modifyFirst {ε : Type} {p : ε → Bool} {f : ε → ε} {es : List ε} {e : ε}
    (h : e ∈ modifyFirst p f es) : e ∈ es ∨ ∃ e₀ ∈ es, e = f e₀ := by
  induction es with
  | nil => exact nomatch h
  | cons a es ih =>
    unfold modifyFirst at h
    split at h
    · rcases List.mem_cons.mp h with rfl | h
      · exact .inr ⟨a, List.mem_cons_self .., rfl⟩
      · exact .inl (List.mem_cons_of_mem a h)
    · rcases List.mem_cons.mp h with rfl | h
      · exact .inl (List.mem_cons_self ..)
      · rcases ih h with h | ⟨e₀, he₀, rfl⟩
        · exact .inl (List.mem_cons_of_mem a h)
        · exact .inr ⟨e₀, List.mem_cons_of_mem a he₀, rfl⟩

/-- Stamped elements have consecutive numbers from the next one on, and the source goes past them,
as long as it does not run out. -/
theorem Store.stamp_spec {ε : Type} [Element ε] (ids : IdSource) (es : List ε)
    (h : ids.next.toNat + es.length < 2 ^ 32) :
    (stamp ids es).1.map Element.number = List.range' ids.next.toNat es.length ∧
      (stamp ids es).2.next.toNat = ids.next.toNat + es.length := by
  induction es generalizing ids with
  | nil => exact ⟨rfl, rfl⟩
  | cons e es ih =>
    rw [List.length_cons] at h ⊢
    have hnext : (ids.next + 1).toNat = ids.next.toNat + 1 := by
      rw [UInt32.toNat_add, Nat.mod_eq_of_lt (by simp; omega)]
      rfl
    have hnumber : Element.number (Element.withId e ids.peek) = ids.next.toNat := by
      rw [Element.number, Element.id_withId]
      rfl
    obtain ⟨hnumbers, hsource⟩ := ih ⟨ids.next + 1⟩ (by rw [hnext]; omega)
    rw [hnext] at hnumbers hsource
    refine ⟨?_, ?_⟩
    · rw [List.range'_succ, ← hnumbers, ← hnumber]
      rfl
    · change (stamp ⟨ids.next + 1⟩ es).2.next.toNat = _
      omega

/-- A kind of element with its tag among all kinds. -/
class Tagged (α : outParam Type) (ε : Type) [Element ε] [Fitting α ε] where
  /-- The tag of the kind. -/
  kind : PartKind
  /-- An element as a part. -/
  part : ε → Part α
  /-- A part has the number of its element. -/
  number_part : ∀ e, (part e).number = Element.number e := by intros; rfl
  /-- The parts of the kind are the elements of its store. -/
  on_kind : ∀ s : Elements α, s.on kind = (Fitting.store s : Store ε).items.map part := by
    intros; rfl
  /-- Replacing the store leaves the other kinds alone. -/
  on_withStore : ∀ (s : Elements α) (t : Store ε), ∀ kind' ≠ kind,
    (Fitting.withStore s t).on kind' = s.on kind'

instance : Tagged α (ControlPoint α) where
  kind := .controlPoint
  part := .controlPoint
  on_withStore s t kind' h := by cases kind' <;> first | rfl | contradiction

instance : Tagged α (Hardpoint α) where
  kind := .hardpoint
  part := .hardpoint
  on_withStore s t kind' h := by cases kind' <;> first | rfl | contradiction

instance : Tagged α (Light α) where
  kind := .light
  part := .light
  on_withStore s t kind' h := by cases kind' <;> first | rfl | contradiction

instance : Tagged α (Room α) where
  kind := .room
  part := .room
  on_withStore s t kind' h := by cases kind' <;> first | rfl | contradiction

instance : Tagged α (Feature α) where
  kind := .feature
  part := .feature
  on_withStore s t kind' h := by cases kind' <;> first | rfl | contradiction

namespace Elements

/-- The parts do not depend on the source of numbers. -/
theorem on_withIds (s : Elements α) (ids : IdSource) (kind : PartKind) :
    ({ s with ids } : Elements α).on kind = s.on kind := by
  cases kind <;> rfl

variable {ε : Type} [Element ε] [Fitting α ε] [Tagged α ε] {s : Elements α}

/-- The numbers of a kind are those of its elements. -/
theorem numbers_kind (s : Elements α) :
    s.numbers (Tagged.kind ε) = (Fitting.store s : Store ε).items.map Element.number := by
  rw [numbers, Tagged.on_kind, List.map_map]
  exact List.map_congr_left fun e _ => Tagged.number_part e

/-- Replacing a store draws fresh numbers if the numbers of the new elements ascend and each of them
is an old one or has one of the fresh numbers. -/
theorem Numbered.draws_withStore (h : s.Numbered) {items : List ε} (ids : IdSource) (count : Nat)
    (hnext : ids.next.toNat = s.next + count)
    (hascending : (items.map Element.number).Pairwise (· < ·))
    (horigin : ∀ e ∈ items,
      (∃ e₀ ∈ (Fitting.store s : Store ε).items, (Tagged.part e₀).Same (Tagged.part e)) ∨
        s.next ≤ Element.number e ∧ Element.number e < s.next + count) :
    s.Draws count { Fitting.withStore s (⟨items⟩ : Store ε) with ids } := by
  have hstore : Fitting.store ({ Fitting.withStore s (⟨items⟩ : Store ε) with ids } : Elements α) =
      (⟨items⟩ : Store ε) := by
    rw [Fitting.store_withIds, Fitting.store_withStore]
  refine h.draws_of_kind (Tagged.kind ε) hnext ?_ ?_ ?_
  · intro kind' hne
    rw [on_withIds, Tagged.on_withStore s _ kind' hne]
  · rwa [numbers_kind, hstore]
  · intro p hp
    rw [Tagged.on_kind, hstore] at hp
    obtain ⟨e, he, rfl⟩ := List.mem_map.mp hp
    rw [Tagged.on_kind, Tagged.number_part]
    refine (horigin e he).imp_left ?_
    rintro ⟨e₀, he₀, hsame⟩
    exact ⟨_, List.mem_map_of_mem he₀, hsame⟩

/-- Replacing a store alone draws no number if the numbers of the new elements ascend and each of
them is an old one. -/
theorem Numbered.draws_withStore_zero (h : s.Numbered) {items : List ε}
    (hascending : (items.map Element.number).Pairwise (· < ·))
    (horigin : ∀ e ∈ items,
      ∃ e₀ ∈ (Fitting.store s : Store ε).items, (Tagged.part e₀).Same (Tagged.part e)) :
    s.Draws 0 (Fitting.withStore s (⟨items⟩ : Store ε)) := by
  have hids := Fitting.ids_withStore s (⟨items⟩ : Store ε)
  have hdraws := h.draws_withStore s.ids 0 rfl hascending fun e he => .inl (horigin e he)
  rwa [← hids] at hdraws

/-- Adding an element draws one number. -/
theorem Numbered.draws_add (h : s.Numbered) (e : ε) (hfew : s.next + 1 < 2 ^ 32) :
    s.Draws 1 (s.add e).1 := by
  have hids : (s.ids.next + 1).toNat = s.next + 1 := by
    rw [UInt32.toNat_add]
    exact Nat.mod_eq_of_lt hfew
  have hnumber : Element.number (Element.withId e s.ids.peek) = s.next := by
    rw [Element.number, Element.id_withId]
    rfl
  have hold := h.ascending (Tagged.kind ε)
  have hbelow := h.below (Tagged.kind ε)
  rw [numbers_kind] at hold hbelow
  refine h.draws_withStore ⟨s.ids.next + 1⟩ 1 hids ?_ ?_
  · rw [List.map_append, List.pairwise_append]
    refine ⟨hold, List.pairwise_singleton _ _, fun k hk j hj => ?_⟩
    rw [List.mem_singleton.mp hj]
    exact hnumber ▸ hbelow k hk
  · intro e' he'
    rcases List.mem_append.mp he' with he' | he'
    · exact .inl ⟨e', he', .refl _⟩
    · rw [List.mem_singleton.mp he']
      refine .inr ⟨Nat.le_of_eq hnumber.symm, ?_⟩
      exact hnumber ▸ Nat.lt_succ_self _

/-- Removing an element draws no number. -/
theorem Numbered.draws_remove (h : s.Numbered) (id : ElementId) :
    s.Draws 0 (s.remove ε id).1 := by
  have hsublist := Store.sublist_remove (Fitting.store s : Store ε) id
  have hold := h.ascending (Tagged.kind ε)
  rw [numbers_kind] at hold
  exact h.draws_withStore_zero (hold.sublist (hsublist.map _)) fun e he =>
    ⟨e, hsublist.subset he, .refl _⟩

/-- An element that remains the same keeps its number. -/
theorem number_eq_of_same {e e' : ε} (h : (Tagged.part e).Same (Tagged.part e')) :
    Element.number e' = Element.number e := by
  rw [← Tagged.number_part, ← Tagged.number_part, h.number_eq]

/-- Changing all elements of a kind so that they remain the same draws no number. -/
theorem Numbered.draws_map (h : s.Numbered) {f : ε → ε}
    (hf : ∀ e, (Tagged.part e).Same (Tagged.part (f e))) :
    s.Draws 0
      (Fitting.withStore s (⟨(Fitting.store s : Store ε).items.map f⟩ : Store ε)) := by
  have hold := h.ascending (Tagged.kind ε)
  rw [numbers_kind, ← List.map_congr_left fun e _ => number_eq_of_same (hf e)] at hold
  refine h.draws_withStore_zero (by rwa [List.map_map]) ?_
  rw [List.forall_mem_map]
  exact fun e he => ⟨e, he, hf e⟩

/-- Changing an element so that it remains the same draws no number. -/
theorem Numbered.draws_modify (h : s.Numbered) (id : ElementId) {f : ε → ε}
    (hf : ∀ e, (Tagged.part e).Same (Tagged.part (f e))) :
    s.Draws 0 (Fitting.withStore s ((Fitting.store s : Store ε).modify id f)) := by
  have hnumber : ∀ e, Element.number (f e) = Element.number e := fun e =>
    number_eq_of_same (hf e)
  have hold := h.ascending (Tagged.kind ε)
  rw [numbers_kind, ← map_number_modifyFirst hnumber] at hold
  refine h.draws_withStore_zero hold fun e he => ?_
  rcases mem_modifyFirst he with he | ⟨e₀, he₀, rfl⟩
  · exact ⟨e, he, .refl _⟩
  · exact ⟨e₀, he₀, hf e₀⟩

/-- Replacing the elements of a kind by stamped ones draws as many numbers. -/
theorem Numbered.draws_restock (h : s.Numbered) (es : List ε)
    (hfew : s.next + es.length < 2 ^ 32) : s.Draws es.length (s.restock es) := by
  obtain ⟨hnumbers, hsource⟩ := Store.stamp_spec s.ids es hfew
  refine h.draws_withStore _ _ hsource ?_ fun e he => .inr ?_
  · rw [hnumbers]
    exact List.pairwise_lt_range'
  · have hmem := List.mem_map_of_mem (f := Element.number) he
    rw [hnumbers, List.mem_range'_1] at hmem
    exact hmem

/-- The one state of the elements leads to the other, and some kinds are replaced as a whole by
elements with fresh numbers. -/
structure Restocks (s : Elements α) (kinds : List PartKind) (count : Nat) (s' : Elements α) :
    Prop extends Draws s count s' where
  /-- The elements of these kinds have fresh numbers. -/
  renewed : ∀ kind ∈ kinds, ∀ k ∈ s'.numbers kind, s.next ≤ k

/-- Nothing is replaced at first. -/
theorem Numbered.restocks_nil (h : s.Numbered) : s.Restocks [] 0 s :=
  ⟨h.draws_refl, fun _ hkind => nomatch hkind⟩

/-- The elements that replace those of a kind have consecutive numbers. -/
theorem numbers_restock (es : List ε) (hfew : s.next + es.length < 2 ^ 32) :
    (s.restock es).numbers (Tagged.kind ε) = List.range' s.next es.length := by
  rw [numbers_kind, restock, Fitting.store_withIds, Fitting.store_withStore]
  exact (Store.stamp_spec s.ids es hfew).1

/-- One kind more is replaced. -/
theorem Restocks.restock {kinds : List PartKind} {count : Nat} {s' : Elements α}
    (h : s.Restocks kinds count s') (es : List ε) (hfew : s.next + count + es.length < 2 ^ 32) :
    s.Restocks (Tagged.kind ε :: kinds) (count + es.length) (s'.restock es) := by
  have hnext := h.next_eq
  have hdraws := h.numbered.draws_restock es (by omega)
  refine ⟨h.toDraws.trans hdraws, fun kind hkind k hk => ?_⟩
  rcases List.mem_cons.mp hkind with rfl | hkind
  · rw [numbers_restock es (by omega), List.mem_range'_1] at hk
    omega
  · obtain ⟨p, hp, rfl⟩ := List.mem_map.mp hk
    rcases Nat.lt_or_ge p.number s'.next with hold | hnew
    · obtain ⟨q, hq, hqp⟩ := hdraws.same kind p hp hold
      rw [hqp.number_eq]
      exact h.renewed kind hkind _ (List.mem_map_of_mem hq)
    · omega

end Elements

end Shipwright
