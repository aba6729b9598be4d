import Shipwright.Graph.Property
import Shipwright.Proofs.Decimal.Integer
import Shipwright.Proofs.Text.Blank

/-!
# Numbers as property texts

A property is read as a number of 32 bits with a sign where its text denotes one, white space
around it apart. Any other text counts as malformed, be it that it denotes a number outside the
range of the type, none at all, or is blank. In particular a number that is written in decimal is
read back.
-/

namespace Shipwright

namespace Decimal

variable {cs before after : List Char} {i : Int}

/-- A text that denotes an integer has no white space in it. -/
theorem Denotes.notMem_whiteSpace (h : Denotes cs i) {c : Char} (hc : c ∈ cs) :
    c.toNat ∉ whiteSpaceCodePoints := by
  have hbounds := h.toNat_of_mem hc
  simp only [whiteSpaceCodePoints, List.mem_cons, List.not_mem_nil, or_false]
  omega

/-- So it is what is left when white space around it is taken off. -/
theorem Denotes.trimmed (h : Denotes cs i) (hbefore : Blank before) (hafter : Blank after) :
    Trimmed (before ++ cs ++ after) cs where
  around := ⟨before, after, hbefore, hafter, rfl⟩
  head _ hc := h.notMem_whiteSpace (List.mem_of_mem_head? hc)
  last _ hc := h.notMem_whiteSpace (List.mem_of_mem_getLast? hc)

end Decimal

namespace Node

variable {κ : Type} {n : Node κ} {key text : String} {core : List Char}

/-- A property that was set has the text it was set to. -/
theorem property?_setProperty (n : Node κ) (key value : String) :
    (n.setProperty key value).property? key = some value := by
  rw [property?, setProperty, OrderedMap.get?_set, if_pos rfl]

/-- The default stands for a property that is absent. -/
theorem parseProperty_of_absent (h : n.property? key = none) (fallback : Int32) :
    n.parseProperty key fallback = fallback := by
  simp only [parseProperty, h]

/-- What is left of a property without the white space around it is read as an integer, and kept if
it is in the range of the type. -/
theorem parseProperty_of_trimmed (h : n.property? key = some text)
    (hcore : Trimmed text.toList core) (fallback : Int32) :
    n.parseProperty key fallback =
      (((Decimal.signed? core).bind (PropertyValue.between (Nat.pow 2 31))).map
        Int32.ofInt).getD fallback := by
  simp only [parseProperty, h, trim_eq_iff.mpr hcore]
  cases core with
  | nil => rfl
  | cons c core => rfl

/-- An integer is read as itself in the range of the type; the default stands for any other. -/
theorem parseProperty_of_denotes {i : Int} (h : n.property? key = some text)
    (hcore : Trimmed text.toList core) (hi : Decimal.Denotes core i) (fallback : Int32) :
    n.parseProperty key fallback =
      if -2 ^ 31 ≤ i ∧ i < 2 ^ 31 then Int32.ofInt i else fallback := by
  have hrange : PropertyValue.between (Nat.pow 2 31) i =
      if -2 ^ 31 ≤ i ∧ i < 2 ^ 31 then some i else none := rfl
  rw [parseProperty_of_trimmed h hcore, Decimal.signed?_eq_some_iff.mpr hi, Option.bind_some,
    hrange]
  split <;> rfl

/-- The default stands for a text that denotes no integer. -/
theorem parseProperty_of_not_denotes (h : n.property? key = some text)
    (hcore : Trimmed text.toList core) (hno : ∀ i, ¬ Decimal.Denotes core i) (fallback : Int32) :
    n.parseProperty key fallback = fallback := by
  have hnone : Decimal.signed? core = none :=
    Option.eq_none_iff_forall_ne_some.mpr fun i hi => hno i (Decimal.signed?_eq_some_iff.mp hi)
  rw [parseProperty_of_trimmed h hcore, hnone]
  rfl

/-- A number set as a property is read back where it is in the range of its type; a larger one is
no value of the type, and the default stands for it. -/
theorem parseProperty_of_toString {k : Nat} (h : n.property? key = some (toString k))
    (fallback : Int32) :
    n.parseProperty key fallback = if k < 2 ^ 31 then Int32.ofInt k else fallback := by
  have htext : (toString k).toList = Decimal.digits k := Nat.toList_repr
  have hdenotes : Decimal.Denotes (Decimal.digits k) k := by
    have hdigits := Decimal.Denotes.unsigned (Decimal.isNatural_digits k)
    rwa [Decimal.placeValue_digits] at hdigits
  have hbare : Trimmed ([] ++ Decimal.digits k ++ []) (Decimal.digits k) :=
    hdenotes.trimmed nofun nofun
  have hcore : Trimmed (toString k).toList (Decimal.digits k) := by
    rw [htext]
    rwa [List.append_nil, List.nil_append] at hbare
  rw [parseProperty_of_denotes h hcore hdenotes]
  exact if_congr (by omega) rfl rfl

/-- How a property is read as a number of 32 bits with a sign, or else a default. An absent property
counts as the default. A text is looked at without the white space around it: the integer in the
range of the type that it denotes is what is read, and where there is none, that is the default. So
a number that is written in decimal is read back, whatever white space stands around it. -/
theorem parseProperty_reads_integer (n : Node κ) (key : String) (fallback : Int32) :
    (n.property? key = none → n.parseProperty key fallback = fallback) ∧
    (∀ text, n.property? key = some text → ∃ core, Trimmed text.toList core ∧
      (∀ i, Decimal.Denotes core i → -2 ^ 31 ≤ i → i ≤ 2 ^ 31 - 1 →
        (n.parseProperty key fallback).toInt = i) ∧
      ((¬ ∃ i, Decimal.Denotes core i ∧ -2 ^ 31 ≤ i ∧ i ≤ 2 ^ 31 - 1) →
        n.parseProperty key fallback = fallback)) ∧
    ∀ (v : Int32) (before after : List Char), Blank before → Blank after →
      (n.setProperty key (String.ofList (before ++ Decimal.ofInt v.toInt ++ after))).parseProperty
        key fallback = v := by
  refine ⟨fun h => parseProperty_of_absent h fallback, ?_, ?_⟩
  · intro text h
    have hcore : Trimmed text.toList (trim text.toList) := trim_eq_iff.mp rfl
    refine ⟨trim text.toList, hcore, ?_, ?_⟩
    · intro i hi hlower hupper
      have hlt : i < 2 ^ 31 := by omega
      rw [parseProperty_of_denotes h hcore hi, if_pos ⟨hlower, hlt⟩]
      exact Int32.toInt_ofInt_of_le hlower hlt
    · intro hno
      by_cases hdenotes : ∃ i, Decimal.Denotes (trim text.toList) i
      · obtain ⟨i, hi⟩ := hdenotes
        rw [parseProperty_of_denotes h hcore hi, if_neg]
        exact fun hrange => hno ⟨i, hi, hrange.1, by omega⟩
      · exact parseProperty_of_not_denotes h hcore (not_exists.mp hdenotes) fallback
  · intro v before after hbefore hafter
    have hdenotes := Decimal.denotes_ofInt v.toInt
    have hcore := hdenotes.trimmed hbefore hafter
    rw [← String.toList_ofList (l := before ++ Decimal.ofInt v.toInt ++ after)] at hcore
    rw [parseProperty_of_denotes (property?_setProperty ..) hcore hdenotes,
      if_pos ⟨v.le_toInt, v.toInt_lt⟩]
    exact v.ofInt_toInt

/-- A plus sign is allowed, the smallest number and white space that is no ASCII are read; the
default stands for a number that is too large, for blanks inside, a sign alone and other digits. -/
example :
    (["+16", "\u3000-2147483648 ", "2147483648", "1 6", "-", "\u0663"].map fun text =>
      ((ofKind ⟨1⟩ ()).setProperty "segments" text).parseProperty "segments" (8 : Int32)) =
    [16, -2147483648, 8, 8, 8, 8] := by decide

end Node

end Shipwright
