import Shipwright.Ron.Codec
import Shipwright.Proofs.Ron.Document

/-!
# Typed values read back

A thing is kept by its document if it is written as a value that says all of it and is read as
the thing again. Every codec keeps what its parts keep: a record looks its fields up by names
that are all different, a tag is found under its word, and a number lies in the range of its
type. Only a non-number is not kept.
-/

namespace Shipwright.Ron

namespace Value

@[simp] theorem fields?_record (name : String) (fields : List (String × Value)) :
    (record (some name) fields).fields? .none name = some fields := by
  simp [fields?, Extensions.admits]

@[simp] theorem items?_tuple (name : String) (items : List Value) :
    (tuple (some name) false items).items? .none name = some items := by
  simp [items?, Extensions.admits]

@[simp] theorem content?_tuple (name : String) (content : Value) :
    (tuple (some name) false [content]).content? .none name = some content := by
  simp [content?, Extensions.none, Extensions.admits]

end Value

namespace Codec

variable {τ : Type} {n : Nat}

/-- Whether a document keeps a thing: no more than so many brackets deep, its value is read back
as the thing. -/
structure Kept [Codec τ] (n : Nat) (x : τ) : Prop where
  /-- The value says all of the thing. -/
  written : (encode x).Written n
  /-- The value is read as the thing. -/
  decoded : decode .none (encode x) = some x

/-- What is written without brackets is kept wherever it stands. -/
def Plain [Codec τ] (x : τ) : Prop := ∀ n, Kept n x

/-- What is nested no deeper than a document may be is read back from its text. -/
theorem Kept.read_write [Codec τ] {x : τ} (h : Kept (Reader.maxDepth / 2) x) :
    read τ (write x) = some x := by
  rw [read, write, String.toList_ofList, Value.document_pretty h.written]
  exact h.decoded

section Atoms

theorem plain_bool (b : Bool) : Plain b := fun _ => ⟨.bool b, rfl⟩

theorem plain_string (s : String) : Plain s := fun _ => ⟨.text s, rfl⟩

/-- A written number is read back by every type that holds it. -/
theorem integer?_ofInteger {t : Number.IntegerType} {k : Nat} (h : t.holds k = true) :
    integer? t (ofInteger k) = some (k : Int) := Number.integerOf?_ofInt h

/-- A written number of up to 64 bits says all of itself. -/
theorem written_ofInteger {k : Nat} (h : k < 2 ^ 64) : (ofInteger k).Written n := by
  refine .number ?_
  rw [String.toList_ofList]
  exact isNumeral_ofInt h

theorem plain_uint32 (k : UInt32) : Plain k := by
  have hk : k.toNat < 2 ^ 32 := k.toNat_lt
  refine fun n => ⟨written_ofInteger (by omega), ?_⟩
  simp [decode, encode, integer?_ofInteger (Number.holds_unsigned hk)]

theorem plain_uint64 (k : UInt64) : Plain k := by
  have hk : k.toNat < 2 ^ 64 := k.toNat_lt
  refine fun n => ⟨written_ofInteger hk, ?_⟩
  simp [decode, encode, integer?_ofInteger (Number.holds_unsigned hk)]

/-- Every float that is a number is kept, infinities and both zeros among them. -/
theorem plain_single {x : Single} (h : x.isNaN = false) : Plain x := by
  refine fun n => ⟨.number ?_, Number.single?_literal h⟩
  rw [String.toList_ofList]
  exact isNumeral_ofSingle h

/-- A tag is kept if it is the first one under its word. -/
theorem plain_tagged {label : τ → String} {all : List τ} {x : τ}
    (hname : Reader.isName (label x) = true)
    (hfind : all.find? (fun y => label y = label x) = some x) :
    @Plain τ (tagged label all) x := by
  let _ := tagged label all
  exact fun n => ⟨.word hname, hfind⟩

end Atoms

section Brackets

/-- A wrapper keeps what is in it. -/
theorem kept_wrapped {σ : Type} [Codec σ] {name : String} {wrap : σ → τ} {unwrap : τ → σ} {x : τ}
    (hname : Reader.isName name = true) (hwrap : wrap (unwrap x) = x) (h : Kept n (unwrap x)) :
    @Kept τ (wrapped name wrap unwrap) (n + 1) x := by
  let _ := wrapped name wrap unwrap
  refine ⟨.tuple hname (by simpa using h.written), ?_⟩
  change ((Value.tuple (some name) false [encode (unwrap x)]).content? .none name).bind _ = _
  rw [Value.content?_tuple, Option.bind_some, h.decoded, Option.map_some, hwrap]

/-- Items that are read back one by one are read back together. -/
theorem mapM_map_eq_some {σ ρ : Type} {written : σ → ρ} {reads : ρ → Option σ} {xs : List σ}
    (h : ∀ x ∈ xs, reads (written x) = some x) : (xs.map written).mapM reads = some xs := by
  induction xs with
  | nil => rfl
  | cons x xs ih =>
    rw [List.map_cons, List.mapM_cons, h x (by simp), ih fun y hy => h y (by simp [hy])]
    rfl

/-- A list keeps its items. -/
theorem kept_list [Codec τ] {xs : List τ} (h : ∀ x ∈ xs, Kept n x) : Kept (n + 1) xs := by
  refine ⟨.list ?_, ?_⟩
  · intro v hv
    obtain ⟨x, hx, rfl⟩ := List.mem_map.mp hv
    exact (h x hx).written
  · exact mapM_map_eq_some fun x hx => (h x hx).decoded

/-- A map keeps its keys, whatever texts these are, with its values and in their order. -/
theorem kept_map [Codec τ] {m : OrderedMap String τ} (h : ∀ x ∈ m.values, Kept n x) :
    Kept (n + 1) m := by
  have hvalue : ∀ e ∈ m.entries, Kept n e.2 := fun e he => h e.2 (List.mem_map_of_mem he)
  constructor
  · refine .dict ?_ ?_
    · intro v hv
      obtain ⟨e, -, rfl⟩ := List.mem_map.mp hv
      exact (plain_string e.1 n).written
    · intro v hv
      obtain ⟨e, he, rfl⟩ := List.mem_map.mp hv
      exact (hvalue e he).written
  · have hentries : ((m.entries.map fun e => (encode e.1, encode e.2)).mapM fun e => do
        return ((← decode .none e.1 : String), (← decode .none e.2 : τ))) = some m.entries :=
      mapM_map_eq_some fun e he => by simp [(plain_string e.1 n).decoded, (hvalue e he).decoded]
    change Option.map _ ((m.entries.map _).mapM _) = _
    rw [hentries, Option.map_some, OrderedMap.ofList_entries]

/-- A vector keeps its components. -/
theorem kept_vec3 [Codec τ] {v : Vec3 τ} (h : ∀ a ∈ v.toList, Plain a) : Kept (n + 1) v := by
  have hx := h v.x (by simp [Vec3.toList])
  have hy := h v.y (by simp [Vec3.toList])
  have hz := h v.z (by simp [Vec3.toList])
  refine ⟨.tuple (by decide) ?_, ?_⟩
  · intro w hw
    obtain ⟨a, ha, rfl⟩ := List.mem_map.mp hw
    exact (h a ha n).written
  · simp [decode, encode, Vec3.toList, (hx n).decoded, (hy n).decoded, (hz n).decoded]

/-- A record keeps its fields: its names are names, its values say all of the fields, and what is
built from the fields is the thing they were taken from. -/
theorem kept_record [Codec τ] {name : String} {fields : List (String × Value)}
    {build : List (String × Value) → Option τ} {x : τ} (names : List String)
    (hencode : encode x = .record (some name) fields)
    (hdecode : ∀ v : Value, decode .none v = (v.fields? .none name).bind build)
    (hnames : fields.map Prod.fst = names) (hname : Reader.isName name = true) (hne : names ≠ [])
    (hall : names.all Reader.isName = true) (hvalues : ∀ f ∈ fields, f.2.Written n)
    (hbuild : build fields = some x) : Kept (n + 1) x := by
  constructor
  · rw [hencode]
    refine .record hname ?_ (fun f hf => ?_) hvalues
    · rintro rfl
      exact hne hnames.symm
    · exact List.all_eq_true.mp hall f.1 (hnames ▸ List.mem_map_of_mem hf)
  · rw [hencode, hdecode, Value.fields?_record, Option.bind_some, hbuild]

end Brackets

section Fields

variable [Codec τ] {exts : Extensions} {fields : List (String × Value)} {name : String}
  {fallback x : τ}

/-- What a record says of a field that may be left out: the field stands there once and is read, or
it is missing and has its default. -/
inductive Says (exts : Extensions) (fields : List (String × Value)) (name : String) (fallback : τ) :
    τ → Prop
  | given {v : Value} {x : τ} (honce : fields.filter (·.1 = name) = [(name, v)])
      (hread : decode exts v = some x) : Says exts fields name fallback x
  | missing (hnone : name ∉ fields.map Prod.fst) : Says exts fields name fallback fallback

/-- No entry has a name just if the name is none of those of the entries. -/
theorem filter_name_eq_nil_iff : fields.filter (·.1 = name) = [] ↔ name ∉ fields.map Prod.fst := by
  rw [List.filter_eq_nil_iff, List.mem_map]
  constructor
  · rintro h ⟨f, hf, hname⟩
    exact h f hf (decide_eq_true hname)
  · intro h f hf hname
    exact h ⟨f, hf, of_decide_eq_true hname⟩

/-- A field with a default is read as what the record says of it. -/
theorem withDefault_eq_some_iff :
    withDefault exts fields name fallback = some x ↔ Says exts fields name fallback x := by
  constructor
  · intro h
    unfold withDefault at h
    split at h
    · rename_i hnone
      obtain rfl := Option.some.inj h
      exact .missing (filter_name_eq_nil_iff.mp hnone)
    · rename_i f honce
      have hf : f ∈ fields.filter (·.1 = name) := by simp [honce]
      obtain ⟨-, hname⟩ := List.mem_filter.mp hf
      obtain rfl : f.1 = name := of_decide_eq_true hname
      exact .given honce h
    · cases h
  · rintro (⟨honce, hread⟩ | hnone)
    · simp only [withDefault, honce, hread]
    · simp only [withDefault, filter_name_eq_nil_iff.mpr hnone]

/-- Of fields listed under names of their own, each in a place of its own, one is read as its value
and every other one has its default. -/
theorem withDefault_map {κ : Type} [DecidableEq κ] {label : κ → String} {value : κ → Value}
    (hlabel : Function.Injective label) {fs : List κ} (hfs : fs.Nodup) (f : κ) (fallback : τ) :
    withDefault exts (fs.map fun f => (label f, value f)) (label f) fallback =
      if f ∈ fs then decode exts (value f) else some fallback := by
  have hfilter : (fs.map fun f => (label f, value f)).filter (·.1 = label f) =
      if f ∈ fs then [(label f, value f)] else [] := by
    have hcomp : ((fun e : String × Value => decide (e.1 = label f)) ∘
        fun f => (label f, value f)) = fun g => decide (g = f) := by
      funext g
      exact decide_eq_decide.mpr hlabel.eq_iff
    rw [List.filter_map, hcomp, List.filter_eq, hfs.count]
    split <;> rfl
  unfold withDefault
  rw [hfilter]
  by_cases hf : f ∈ fs
  · simp only [if_pos hf]
  · simp only [if_neg hf]

end Fields

end Codec

end Shipwright.Ron
