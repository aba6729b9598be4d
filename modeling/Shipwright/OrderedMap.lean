/-!
# Maps in insertion order

Node properties, cached outputs and learned profiles are looked up by key but
listed in the order in which their keys first appeared. The map is a list of
entries whose keys are distinct by construction: setting a known key replaces
its value in place, setting a new one appends an entry.
-/

namespace Shipwright

namespace OrderedMap

variable {κ τ : Type} [DecidableEq κ]

/-- The list with an item put in the place of the first one of its key, or at the end where there
is none. -/
def put (key : τ → κ) (x : τ) : List τ → List τ
  | [] => [x]
  | y :: ys => if key y = key x then x :: ys else y :: put key x ys

/-- Putting an item keeps the keys of a list, or adds the new one at the end. -/
theorem map_put (key : τ → κ) (x : τ) (ys : List τ) :
    (put key x ys).map key = if key x ∈ ys.map key then ys.map key else ys.map key ++ [key x] := by
  induction ys with
  | nil => simp [put]
  | cons y ys ih =>
    by_cases h : key y = key x
    · simp [put, h]
    · have hne : ¬ key x = key y := fun he => h he.symm
      simp only [put, h, ↓reduceIte, List.map_cons, ih, List.mem_cons, hne, false_or]
      split <;> simp

/-- An item of a new key comes at the end. -/
theorem put_of_notMem {key : τ → κ} {x : τ} {ys : List τ} (h : key x ∉ ys.map key) :
    put key x ys = ys ++ [x] := by
  induction ys with
  | nil => rfl
  | cons y ys ih =>
    rw [List.map_cons, List.mem_cons, not_or] at h
    rw [put, if_neg fun heq => h.1 heq.symm, ih h.2, List.cons_append]

/-- An item that has been put is there. -/
theorem mem_put_self (key : τ → κ) (x : τ) (ys : List τ) : x ∈ put key x ys := by
  induction ys with
  | nil => exact List.mem_singleton_self x
  | cons y ys ih =>
    rw [put]
    split
    · exact List.mem_cons_self
    · exact List.mem_cons_of_mem y ih

/-- Putting an item leaves those of other keys. -/
theorem mem_put_of_mem {key : τ → κ} {x y : τ} {ys : List τ} (hy : y ∈ ys) (hne : key y ≠ key x) :
    y ∈ put key x ys := by
  induction ys with
  | nil => exact absurd hy List.not_mem_nil
  | cons z zs ih =>
    rw [put]
    rcases List.mem_cons.mp hy with rfl | hy
    · rw [if_neg hne]
      exact List.mem_cons_self
    · split
      · exact List.mem_cons_of_mem x hy
      · exact List.mem_cons_of_mem z (ih hy)

/-- Putting an item keeps the keys distinct. -/
theorem nodup_map_put (key : τ → κ) (x : τ) {ys : List τ} (h : (ys.map key).Nodup) :
    ((put key x ys).map key).Nodup := by
  rw [map_put]
  split
  · exact h
  · rename_i hk
    refine List.nodup_append.2 ⟨h, by simp, ?_⟩
    intro a ha b hb
    have hb : b = key x := by simpa using hb
    subst hb
    exact fun hab => hk (hab ▸ ha)

end OrderedMap

/-- A finite map that remembers the order in which its keys were first set. -/
structure OrderedMap (κ ν : Type) [DecidableEq κ] where
  /-- The entries, oldest key first. -/
  entries : List (κ × ν)
  /-- No key has two entries. -/
  nodup : (entries.map Prod.fst).Nodup

namespace OrderedMap

variable {κ ν : Type} [DecidableEq κ]

/-- The map without entries. -/
def empty : OrderedMap κ ν := ⟨[], by simp⟩

instance : Inhabited (OrderedMap κ ν) := ⟨empty⟩

/-- The value under a key. -/
def get? (m : OrderedMap κ ν) (key : κ) : Option ν := m.entries.lookup key

/-- The map after setting a key. -/
def set (m : OrderedMap κ ν) (key : κ) (value : ν) : OrderedMap κ ν :=
  ⟨put Prod.fst (key, value) m.entries, nodup_map_put Prod.fst (key, value) m.nodup⟩

/-- The map after setting each entry of a list in turn. -/
def setAll (m : OrderedMap κ ν) (es : List (κ × ν)) : OrderedMap κ ν :=
  es.foldl (fun m e => m.set e.1 e.2) m

/-- The map whose keys were set in the order of a list; later values replace earlier ones. -/
def ofList (es : List (κ × ν)) : OrderedMap κ ν := empty.setAll es

/-- The map with one entry. -/
def singleton (key : κ) (value : ν) : OrderedMap κ ν := empty.set key value

/-- The values, oldest key first. -/
def values (m : OrderedMap κ ν) : List ν := m.entries.map Prod.snd

/-- The number of entries. -/
def size (m : OrderedMap κ ν) : Nat := m.entries.length

@[simp] theorem get?_empty (key : κ) : (empty : OrderedMap κ ν).get? key = none := rfl

@[simp] theorem entries_set (m : OrderedMap κ ν) (key : κ) (value : ν) :
    (m.set key value).entries = put Prod.fst (key, value) m.entries := rfl

/-- Entries of new keys, all different, come at the end in their order. -/
theorem entries_setAll {m : OrderedMap κ ν} {es : List (κ × ν)}
    (h : ((m.entries ++ es).map Prod.fst).Nodup) : (m.setAll es).entries = m.entries ++ es := by
  induction es generalizing m with
  | nil => exact (List.append_nil _).symm
  | cons e es ih =>
    have hnew : e.1 ∉ m.entries.map Prod.fst := by
      rw [List.map_append, List.map_cons] at h
      exact fun he => (List.nodup_append.1 h).2.2 e.1 he e.1 List.mem_cons_self rfl
    have hset : (m.set e.1 e.2).entries = m.entries ++ [e] := put_of_notMem hnew
    have hrest : (m.set e.1 e.2).entries ++ es = m.entries ++ e :: es := by
      rw [hset, List.append_assoc, List.singleton_append]
    exact (ih (by rwa [hrest])).trans hrest

/-- Maps with the same entries in the same order are one map. -/
theorem eq_of_entries_eq {m n : OrderedMap κ ν} (h : m.entries = n.entries) : m = n := by
  cases m
  cases n
  cases h
  rfl

/-- A map is that of its entries. -/
theorem ofList_entries (m : OrderedMap κ ν) : ofList m.entries = m :=
  eq_of_entries_eq (entries_setAll m.nodup)

/-- After putting an entry, its key answers the new value and every other key as before. -/
theorem lookup_put (key other : κ) (value : ν) (es : List (κ × ν)) :
    (put Prod.fst (key, value) es).lookup other =
      if other = key then some value else es.lookup other := by
  induction es with
  | nil =>
    by_cases h : other = key
    · simp [put, h]
    · simp [put, List.lookup_cons, h, beq_eq_false_iff_ne.2 h]
  | cons e es ih =>
    obtain ⟨k, v⟩ := e
    by_cases h : k = key
    · subst h
      by_cases ho : other = k
      · simp [put, ho]
      · simp [put, List.lookup_cons, ho, beq_eq_false_iff_ne.2 ho]
    · by_cases ho : other = k
      · subst ho
        simp [put, h]
      · simp [put, h, List.lookup_cons, beq_eq_false_iff_ne.2 ho, ih]

/-- A map answers the last value set under a key. -/
theorem get?_set (m : OrderedMap κ ν) (key other : κ) (value : ν) :
    (m.set key value).get? other = if other = key then some value else m.get? other :=
  lookup_put key other value m.entries

/-- Entries without a key give nothing for it. -/
theorem lookup_eq_none {es : List (κ × ν)} {key : κ} (h : key ∉ es.map Prod.fst) :
    es.lookup key = none := by
  rw [List.lookup_eq_none_iff]
  intro e he
  exact bne_iff_ne.2 fun heq => h (List.mem_map.2 ⟨e, he, heq.symm⟩)

/-- Entries with distinct keys give each entry's value for its key. -/
theorem lookup_of_mem {es : List (κ × ν)} (h : (es.map Prod.fst).Nodup) {e : κ × ν} (he : e ∈ es) :
    es.lookup e.1 = some e.2 := by
  induction es with
  | nil => contradiction
  | cons x es ih =>
    obtain ⟨hfirst, hrest⟩ := List.nodup_cons.1 h
    rcases List.mem_cons.1 he with rfl | he
    · exact List.lookup_cons_self
    · have hne : e.1 ≠ x.1 := fun heq => hfirst (heq ▸ List.mem_map_of_mem he)
      rw [List.lookup_cons, beq_eq_false_iff_ne.2 hne]
      exact ih hrest he

end OrderedMap

end Shipwright
