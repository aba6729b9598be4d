import Shipwright.Proofs.Ship.Refusal

/-!
# The history tells what was done

Moving and resizing leave records from which the elements can be rebuilt. A record is carried out
by writing one of its two values to its target: the values after the edits, written in order, lead
from the elements before a run to those after it, and the values before the edits, written in
reverse, lead back. Every record finds its target, since an edit that is refused leaves none.
Whatever else a session does, what was recorded before stays recorded.
-/

namespace Shipwright

variable {α : Type}

/-- A kind of element whose store is a part of the elements like any other field. -/
class LawfulFitting (α : outParam Type) (ε : Type) [Element ε] [Fitting α ε] : Prop where
  /-- Putting back the store that is there changes nothing. -/
  withStore_store : ∀ s : Elements α, Fitting.withStore s (Fitting.store s : Store ε) = s := by
    intros; rfl
  /-- Of two stores the second remains. -/
  withStore_withStore : ∀ (s : Elements α) (t u : Store ε),
    Fitting.withStore (Fitting.withStore s t) u = Fitting.withStore s u := by intros; rfl

instance : LawfulFitting α (ControlPoint α) where

instance : LawfulFitting α (Hardpoint α) where

instance : LawfulFitting α (Light α) where

/-- A change of an element that keeps its number is undone by one that gives the element back. -/
theorem Store.modify_modify_of_get? {ε : Type} [Element ε] {s : Store ε} {id : ElementId} {e : ε}
    {f g : ε → ε} (hget : s.get? id = some e) (hkeeps : Element.id (f e) = Element.id e)
    (hback : g (f e) = e) : (s.modify id f).modify id g = s := by
  obtain ⟨hid, before, after, hitems, hbefore⟩ := get?_eq_some_iff.mp hget
  have hothers : ∀ x ∈ before, hasId id x = false := by simpa [hasId] using hbefore
  have hfirst : hasId id e = true := by simp [hasId, hid]
  have hchanged : hasId id (f e) = true := by simp [hasId, hkeeps, hid]
  obtain ⟨items⟩ := s
  obtain rfl : items = before ++ e :: after := hitems
  rw [modify, modify, modifyFirst_append hothers hfirst, modifyFirst_append hothers hchanged, hback]

namespace Elements

/-- The elements with the one of a given number changed, if there is such an element. -/
def change? {ε : Type} [Element ε] [Fitting α ε] (s : Elements α) (id : ElementId) (f : ε → ε) :
    Option (Elements α) :=
  let store : Store ε := Fitting.store s
  (store.get? id).map fun _ => Fitting.withStore s (store.modify id f)

/-- The elements with a value of an edit written to its target: a place, or a radius from the x
component. Edits that add or remove an element have no value to be written. -/
def write? (s : Elements α) (kind : EditKind) (target : ElementId) (value : Vec3 α) :
    Option (Elements α) :=
  match kind with
  | .moveControlPoint => s.change? target fun e : ControlPoint α => { e with position := value }
  | .resizeControlPoint => s.change? target fun e : ControlPoint α => { e with radius := value.x }
  | .moveHardpoint => s.change? target fun e : Hardpoint α => { e with position := value }
  | .moveLight => s.change? target fun e : Light α => { e with position := value }
  | .addHardpoint | .addLight | .removeElement => none

/-- The elements after some edits are carried out again in order. -/
def replay? (s : Elements α) (edits : List (Edit α)) : Option (Elements α) :=
  edits.foldlM (fun s e => s.write? e.kind e.target e.after) s

/-- The elements before some edits, which are taken back in reverse. -/
def rewind? (s : Elements α) (edits : List (Edit α)) : Option (Elements α) :=
  edits.foldrM (fun e s => s.write? e.kind e.target e.before) s

@[simp] theorem replay?_singleton (s : Elements α) (e : Edit α) :
    s.replay? [e] = s.write? e.kind e.target e.after := by simp [replay?]

@[simp] theorem rewind?_singleton (s : Elements α) (e : Edit α) :
    s.rewind? [e] = s.write? e.kind e.target e.before := by simp [rewind?]

/-- A change of an element is undone by one that gives the element back. -/
theorem change?_eq_some {ε : Type} [Element ε] [Fitting α ε] [LawfulFitting α ε] {s : Elements α}
    {id : ElementId} {e : ε} {f g : ε → ε}
    (hget : (Fitting.store s : Store ε).get? id = some e)
    (hkeeps : ∀ e, Element.id (f e) = Element.id e) (hback : g (f e) = e) :
    let t := Fitting.withStore s ((Fitting.store s : Store ε).modify id f)
    s.change? id f = some t ∧ t.change? id g = some s := by
  intro t
  have hstore : (Fitting.store t : Store ε) = (Fitting.store s : Store ε).modify id f :=
    Fitting.store_withStore s _
  refine ⟨by simp only [change?, hget, Option.map_some]; rfl, ?_⟩
  rw [change?, hstore, Store.get?_modify _ _ hkeeps, hget, Option.map_some, Option.map_some,
    Store.modify_modify_of_get? hget (hkeeps e) hback, LawfulFitting.withStore_withStore,
    LawfulFitting.withStore_store]

end Elements

namespace Session

/-- The one session becomes the other by edits that the history of the other tells. -/
structure Logged (s : Session α) (edits : List (Edit α)) (t : Session α) : Prop where
  /-- The edits are recorded after what was recorded before. -/
  history : t.assembly.history = s.assembly.history ++ edits
  /-- Carried out in order, the edits lead from the one to the other. -/
  replayed : s.assembly.elements.replay? edits = some t.assembly.elements
  /-- Taken back in reverse, the edits lead from the other to the one. -/
  rewound : t.assembly.elements.rewind? edits = some s.assembly.elements

/-- A session becomes itself by no edit. -/
theorem Logged.refl (s : Session α) : s.Logged [] s := ⟨(List.append_nil _).symm, rfl, rfl⟩

/-- Edits that go on from what a session has become are recorded after the others. -/
theorem Logged.trans {s t u : Session α} {edits later : List (Edit α)} (hst : s.Logged edits t)
    (htu : t.Logged later u) : s.Logged (edits ++ later) u where
  history := by rw [htu.history, hst.history, List.append_assoc]
  replayed := by
    rw [Elements.replay?, List.foldlM_append, ← Elements.replay?, hst.replayed]
    exact htu.replayed
  rewound := by
    rw [Elements.rewind?, List.foldrM_append, ← Elements.rewind?, htu.rewound]
    exact hst.rewound

/-- An edit that writes a value to one element is told by its record, or is refused and leaves
none. -/
theorem exists_logged_recorded {ε : Type} [Element ε] [Fitting α ε] [LawfulFitting α ε]
    (s : Session α) (id : ElementId) (now : UInt64) (kind : EditKind) (value : ε → Vec3 α)
    (put : Vec3 α → ε → ε) (new : Vec3 α)
    (hwrite : ∀ (t : Elements α) v, t.write? kind id v = t.change? id (put v))
    (hkeeps : ∀ v e, Element.id (put v e) = Element.id e)
    (hback : ∀ e, put (value e) (put new e) = e) :
    ∃ edits, s.Logged edits (s.recorded kind id new now
      ((s.assembly.modify id (put new)).1, (s.assembly.modify id (put new)).2.map value)).1 := by
  cases hget : (Fitting.store s.assembly.elements : Store ε).get? id with
  | none =>
    refine ⟨[], ?_⟩
    simp only [Assembly.modify, hget, Option.map_none, recorded]
    exact .refl s
  | some e =>
    obtain ⟨hforward, hbackward⟩ := Elements.change?_eq_some hget (hkeeps new) (hback e)
    refine ⟨[⟨kind, s.className, id, value e, new, now⟩], ?_⟩
    simp only [Assembly.modify, hget, Option.map_some, recorded]
    refine ⟨rfl, ?_, ?_⟩
    · rw [Elements.replay?_singleton, hwrite]
      exact hforward
    · rw [Elements.rewind?_singleton, hwrite]
      exact hbackward

/-- Whether a method of a session moves or resizes an element. -/
def Op.adjusts : Op α → Bool
  | .move .. | .setRadius .. => true
  | _ => false

end Session

/-- A change of the elements leaves the history alone. -/
theorem Assembly.Edited.history_eq {a b : Assembly α} (h : a.Edited b) : b.history = a.history := by
  rcases h with rfl | ⟨elements, rfl⟩ <;> rfl

variable [Trigonometric α]

namespace Assembly

/-- No operation on a ship changes what was recorded before. -/
theorem isPrefix_history_apply (a : Assembly α) (op : Op α) :
    a.history <+: (a.apply op).history := by
  have hedit : ∀ {b : Assembly α}, a.Edited b → a.history <+: b.history := fun h =>
    h.history_eq ▸ List.prefix_rfl
  cases op with
  | add part => cases part <;> exact List.prefix_rfl
  | remove kind id => cases kind <;> exact hedit (edited_remove a id)
  | move kind id position => cases kind <;> exact hedit (edited_move a id position)
  | setRadius id radius =>
    exact hedit (edited_modify a id fun e : ControlPoint α => { e with radius })
  | applyProfile p blend => exact hedit (edited_applyProfile a p blend)
  | record e => exact List.prefix_append a.history [e]
  | addNode | setProperty | removeNode | addEdge | removeEdge | usePipeline | compile | execute
    | generate | importDesign | clone => exact List.prefix_rfl

/-- What becomes of a ship has all that was recorded before. -/
theorem Becomes.isPrefix_history {a b : Assembly α} (h : a.Becomes b) :
    a.history <+: b.history := by
  obtain ⟨ops, _, rfl⟩ := h
  refine List.foldlRecOn (motive := fun b : Assembly α => a.history <+: b.history) ops
    Assembly.apply List.prefix_rfl ?_
  intro b hb op _
  exact List.IsPrefix.trans hb (b.isPrefix_history_apply op)

end Assembly

namespace Session

variable [Ron.Codec α]

/-- No run of a session's methods changes what was recorded before. -/
theorem isPrefix_history_applyAll (s : Session α) (ops : List (Op α)) :
    s.assembly.history <+: (s.applyAll ops).assembly.history := by
  refine List.foldlRecOn (motive := fun t => s.assembly.history <+: t.assembly.history) ops apply
    List.prefix_rfl ?_
  intro t ht op _
  exact List.IsPrefix.trans ht (t.becomes_apply op).isPrefix_history

/-- Moving or resizing an element is told by the history. -/
theorem exists_logged_apply (s : Session α) {op : Op α} (hop : op.adjusts = true) :
    ∃ edits, s.Logged edits (s.apply op) := by
  cases op with
  | move kind id position now =>
    cases kind with
    | controlPoint =>
      exact s.exists_logged_recorded id now .moveControlPoint ControlPoint.position
        (fun position e => { e with position }) position (fun _ _ => rfl) (fun _ _ => rfl)
        fun _ => rfl
    | hardpoint =>
      exact s.exists_logged_recorded id now .moveHardpoint Hardpoint.position
        (fun position e => { e with position }) position (fun _ _ => rfl) (fun _ _ => rfl)
        fun _ => rfl
    | light =>
      exact s.exists_logged_recorded id now .moveLight Light.position
        (fun position e => { e with position }) position (fun _ _ => rfl) (fun _ _ => rfl)
        fun _ => rfl
  | setRadius id radius now =>
    have h := s.exists_logged_recorded id now .resizeControlPoint
      (radiusValue ∘ ControlPoint.radius) (fun value e => { e with radius := value.x })
      (radiusValue radius) (fun _ _ => rfl) (fun _ _ => rfl) fun _ => rfl
    rwa [← Option.map_map] at h
  | _ => cases hop

/-- A session on a ship with the control point 1 and the light 2. -/
def spotlit : Session Single :=
  { (newShip "ship" "Corvette" 7 .standard : Session Single) with
    assembly := Assembly.empty.applyAll [.add (.controlPoint default), .add (.light default)] }

/-- The control point is moved, resized and moved again; a light that does not exist is moved in
between. -/
def draggedTwice : List (Op Single) :=
  [.move .controlPoint ⟨1⟩ .unitX 5, .setRadius ⟨1⟩ 2.0 6, .move .light ⟨9⟩ .unitY 7,
    .move .controlPoint ⟨1⟩ .unitZ 8]

end Session

end Shipwright
