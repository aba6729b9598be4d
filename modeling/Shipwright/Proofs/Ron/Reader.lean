import Shipwright.Ron.Writer
import Shipwright.Proofs.Ron.Quoted

/-!
# Readers on written text

What the reader does with the text of one part: blanks are passed over, a name is read up to what
is no part of it, a number up to what belongs to no literal, a quoted text up to its quote. The
parts of a bracket are read one by one once each of them is, whether they stand on lines of their
own or in a row.
-/

namespace Shipwright.Ron

namespace Reader

section Gaps

/-- What begins no comment is passed over just if it is blank. -/
theorem skip_cons {c : Char} (hslash : c ≠ '/') (cs : List Char) :
    skip (c :: cs) = if isBlank c then skip cs else some (c :: cs) := by
  unfold skip
  rw [skipGap.eq_def]
  split <;> simp_all

/-- A blank is passed over. -/
theorem skip_cons_of_isBlank {c : Char} (h : isBlank c = true) (cs : List Char) :
    skip (c :: cs) = skip cs := by
  have hslash : c ≠ '/' := by rintro rfl; contradiction
  rw [skip_cons hslash, if_pos h]

/-- Whether characters are all blank. -/
def IsGap (gap : List Char) : Prop := ∀ c ∈ gap, isBlank c = true

theorem isGap_nil : IsGap [] := by simp [IsGap]

theorem isGap_space : IsGap [' '] := by simp [IsGap, isBlank]

theorem isGap_newline : IsGap ['\n'] := by simp [IsGap, isBlank]

/-- The blanks in front of a line are a gap. -/
theorem isGap_indent (depth : Nat) : IsGap (Value.indent depth) := by
  intro c hc
  rw [List.eq_of_mem_replicate hc]
  rfl

/-- A gap is passed over. -/
theorem skip_append {gap : List Char} (h : IsGap gap) (cs : List Char) :
    skip (gap ++ cs) = skip cs := by
  induction gap with
  | nil => rfl
  | cons c gap ih =>
    rw [List.cons_append, skip_cons_of_isBlank (h c (by simp)), ih fun d hd => h d (by simp [hd])]

/-- What is neither blank nor the beginning of a comment is not passed over. -/
theorem skip_cons_of_not_isBlank {c : Char} (h : isBlank c = false) (hslash : c ≠ '/')
    (cs : List Char) : skip (c :: cs) = some (c :: cs) := by
  rw [skip_cons hslash, if_neg (by simp [h])]

/-- Whether a character may begin a part of a document: it is no blank, no mark behind a part
and opens no comment or line of extensions. -/
def Opens (c : Char) : Prop := isBlank c = false ∧ c ∉ ['/', '#', ',', ')', ']', '\x7d']

instance : DecidablePred Opens := fun _ => inferInstanceAs (Decidable (_ ∧ _))

theorem Opens.skip {c : Char} (h : Opens c) (cs : List Char) : skip (c :: cs) = some (c :: cs) :=
  skip_cons_of_not_isBlank h.1 (by have := h.2; simp_all) cs

/-- The characters that begin no part. -/
def shut : List Char :=
  [' ', '\t', '\n', '\r', '\x0b', '\x0c', '\u0085', '\u200e', '\u200f', '\u2028', '\u2029', '/',
    '#', ',', ')', ']', '\x7d']

/-- Characters of a kind that no shut character is of may begin a part. -/
theorem opens_of (kind : Char → Bool) (hshut : shut.any kind = false) {c : Char}
    (h : kind c = true) : Opens c := by
  have hne : c ∉ shut := fun hc => List.any_eq_false.mp hshut c hc h
  simp only [shut, List.mem_cons, not_or] at hne
  simp [Opens, isBlank, hne]

/-- An identifier may begin a part. -/
theorem opens_of_isIdentifierStart {c : Char} (h : isIdentifierStart c = true) : Opens c :=
  opens_of isIdentifierStart (by decide +kernel) h

/-- A digit may begin a part. -/
theorem opens_of_isDigit {c : Char} (h : c.isDigit = true) : Opens c :=
  opens_of Char.isDigit (by decide) h

end Gaps

section Names

/-- Whether characters are an identifier without a prefix. -/
def isIdentifier : List Char → Bool
  | [] => false
  | c :: cs => isIdentifierStart c && (c :: cs).all isIdentifierRest

/-- Whether what follows a name or a part is a mark or nothing. -/
def Marked (rest : List Char) : Prop := ∀ c ∈ rest.head?, c ∈ [',', ')', ':', '(']

namespace Marked

variable {rest : List Char}

/-- What holds of every mark holds of what follows. -/
theorem head {p : Char → Prop} (h : Marked rest) (hcomma : p ',') (hclose : p ')')
    (hcolon : p ':') (hopen : p '(') : ∀ c ∈ rest.head?, p c := by
  intro c hc
  have hmark := h c hc
  simp only [List.mem_cons, List.not_mem_nil, or_false] at hmark
  rcases hmark with rfl | rfl | rfl | rfl <;> assumption

/-- No mark is a part of an identifier. -/
theorem isIdentifierRest (h : Marked rest) : ∀ c ∈ rest.head?, isIdentifierRest c = false :=
  h.head (by decide) (by decide) (by decide) (by decide)

/-- No mark is a part of a literal. -/
theorem isLiteralChar (h : Marked rest) : ∀ c ∈ rest.head?, isLiteralChar c = false :=
  h.head (by decide) (by decide) (by decide) (by decide)

/-- A mark is not passed over. -/
theorem skip (h : Marked rest) : skip rest = some rest := by
  cases rest with
  | nil => rfl
  | cons c cs =>
    have hsolid : ∀ d ∈ (c :: cs).head?, isBlank d = false ∧ d ≠ '/' :=
      h.head (by decide) (by decide) (by decide) (by decide)
    exact skip_cons_of_not_isBlank (hsolid c rfl).1 (hsolid c rfl).2 cs

end Marked

/-- A quote or a hash is no part of an identifier. -/
theorem isIdentifierRest_quote {quote : Char} (h : quote ∈ ['"', '\'', '#']) :
    isIdentifierRest quote = false := by
  simp only [List.mem_cons, List.not_mem_nil, or_false] at h
  rcases h with rfl | rfl | rfl <;> decide

/-- An identifier in front of a mark does not agree with a prefix of a text, which ends in a quote
or a hash. -/
theorem isPrefixOf_append_eq_false {name rest : List Char}
    (hname : ∀ c ∈ name, isIdentifierRest c = true) (hrest : Marked rest) {before : List Char}
    (hbefore : before.all isIdentifierRest = true) {quote : Char}
    (hquote : quote ∈ ['"', '\'', '#']) (after : List Char) :
    (before ++ quote :: after).isPrefixOf (name ++ rest) = false := by
  rw [Bool.eq_false_iff, ne_eq, List.isPrefixOf_iff_prefix]
  rintro ⟨tail, heq⟩
  have hhead : ∀ c ∈ (quote :: (after ++ tail)).head?, isIdentifierRest c = false := by
    rintro c ⟨⟩
    exact isIdentifierRest_quote hquote
  have hsplit : before ++ (quote :: (after ++ tail)) = name ++ rest := by simpa using heq
  have hdrop := congrArg (List.dropWhile isIdentifierRest) hsplit
  rw [dropWhile_append_eq (List.all_eq_true.mp hbefore) hhead,
    dropWhile_append_eq hname hrest.isIdentifierRest] at hdrop
  have hmark : quote ∈ [',', ')', ':', '('] := hrest quote (by simp [← hdrop])
  simp only [List.mem_cons, List.not_mem_nil, or_false] at hquote
  rcases hquote with rfl | rfl | rfl <;> simp at hmark

/-- An identifier does not open a text. -/
theorem opensQuoted_append_eq_false {name rest : List Char}
    (hname : ∀ c ∈ name, isIdentifierRest c = true) (hrest : Marked rest) :
    opensQuoted (name ++ rest) = false := by
  have hb : ['b'].all isIdentifierRest = true := by decide
  have hr : ['r'].all isIdentifierRest = true := by decide
  have hbr : ['b', 'r'].all isIdentifierRest = true := by decide
  have hquote : '"' ∈ ['"', '\'', '#'] := by simp
  have hsingle : '\'' ∈ ['"', '\'', '#'] := by simp
  have hhash : '#' ∈ ['"', '\'', '#'] := by simp
  have hno := @isPrefixOf_append_eq_false name rest hname hrest
  simp only [opensQuoted, List.any_cons, List.any_nil, Bool.or_false, Bool.or_eq_false_iff]
  exact ⟨hno hb hquote [], hno hb hsingle [], hno hbr hhash [], hno hbr hquote [],
    hno hr hquote [], hno hr hhash ['"'], hno hr hhash ['#']⟩

/-- An identifier is read up to the mark behind it. -/
theorem identifier_append {name rest : List Char} (hname : isIdentifier name = true)
    (hrest : Marked rest) :
    identifier (name ++ rest) = some (⟨false, String.ofList name⟩, rest) := by
  cases name with
  | nil => cases hname
  | cons c cs =>
    simp only [isIdentifier, Bool.and_eq_true, List.all_eq_true] at hname
    obtain ⟨hstart, hall⟩ := hname
    have hr : ['r'].all isIdentifierRest = true := by decide
    have hhash : '#' ∈ ['"', '\'', '#'] := by simp
    have hraw := isPrefixOf_append_eq_false hall hrest hr hhash []
    have hcs : ∀ d ∈ cs, isIdentifierRest d = true := fun d hd => hall d (by simp [hd])
    have hend := hrest.isIdentifierRest
    unfold identifier
    rw [opensQuoted_append_eq_false hall hrest, if_neg Bool.false_ne_true]
    split
    · rename_i heq
      rw [heq] at hraw
      simp at hraw
    · simp [plainIdentifier, hstart, takeWhile_append_eq hcs hend, dropWhile_append_eq hcs hend]

/-- What does not begin like an identifier is none. -/
theorem identifier_cons_eq_none {c : Char} (h : isIdentifierStart c = false) (cs : List Char) :
    identifier (c :: cs) = none := by
  unfold identifier
  split
  · rfl
  · split
    · rename_i heq
      cases heq
      exact absurd h (by decide)
    · simp [plainIdentifier, h]

/-- An identifier in front of a mark is taken for the name of a field. -/
theorem fieldName_append {name rest : List Char} (hname : isIdentifier name = true)
    (hrest : Marked rest) : fieldName (name ++ rest) = some (String.ofList name, rest) := by
  have hhead : ∀ c ∈ rest.head?, isRawRest c = false :=
    hrest.head (by decide) (by decide) (by decide) (by decide)
  have hfollow : (rest.head?.map isRawRest).getD false = false := by
    cases h : rest.head? with
    | none => rfl
    | some c => exact hhead c h
  simp [fieldName, identifier_append hname hrest, hfollow]

end Names

section Brackets

variable {τ : Type} {item : Reader τ} {close : Char} {rest : List Char}

/-- A bracket does not read blanks in front of its parts differently. -/
theorem items_of_skip {cs ds : List Char} (h : skip cs = some ds) (h' : skip ds = some ds)
    (n : Nat) : items close item n ds = items close item n cs := by
  cases n with
  | zero => rfl
  | succ n => simp only [items, h, h']

/-- A closing bracket right away ends the parts. -/
theorem items_close (hclose : skip (close :: rest) = some (close :: rest)) (n : Nat) :
    items close item (n + 1) (close :: rest) = some ([], rest) := by
  simp [items, hclose]

/-- What is read of a bracket's parts one by one is read of them all. -/
theorem items_cons {n : Nat} {cs ds es : List Char} {x : τ} {c : Char} {xs : List τ}
    (hskip : skip cs = some (c :: ds)) (hne : c ≠ close)
    (hitem : item (c :: ds) = some (x, ',' :: es))
    (hrest : items close item n es = some (xs, rest)) :
    items close item (n + 1) cs = some (x :: xs, rest) := by
  have hcomma : skip (',' :: es) = some (',' :: es) := Marked.skip (by simp [Marked])
  simp [items, hskip, hne, hitem, hcomma, hrest]

/-- Whether what follows a part in the written form ends it. -/
def Ends (rest : List Char) : Prop := ∀ c ∈ rest.head?, c ∈ [',', ')', ':']

theorem Ends.marked (h : Ends rest) : Marked rest :=
  fun c hc => List.mem_append_left ['('] (h c hc)

/-- Whether a reader takes a text for a part, up to whatever may follow it. -/
structure Reads (item : Reader τ) (text : List Char) (x : τ) : Prop where
  /-- The text begins like a part. -/
  opens : ∃ c cs, text = c :: cs ∧ Opens c
  /-- The reader stops right behind the text. -/
  reads : ∀ rest, Ends rest → item (text ++ rest) = some (x, rest)

/-- No closing bracket begins a part. -/
theorem Opens.ne_close {c : Char} (h : Opens c) (hclose : close ∈ [')', ']', '\x7d']) :
    c ≠ close := by
  rintro rfl
  have := h.2
  simp_all

/-- A closing bracket is passed over by nothing. -/
theorem skip_close (hclose : close ∈ [')', ']', '\x7d']) (rest : List Char) :
    skip (close :: rest) = some (close :: rest) := by
  simp only [List.mem_cons, List.not_mem_nil, or_false] at hclose
  rcases hclose with rfl | rfl | rfl <;> exact skip_cons_of_not_isBlank rfl (by decide) rest

/-- Parts on lines of their own, each with a comma behind it, are read one by one. -/
theorem items_lines {text : τ → List Char} {xs : List τ} {lineGap lastGap : List Char}
    (hreads : ∀ x ∈ xs, Reads item (text x) x) (hclose : close ∈ [')', ']', '\x7d'])
    (hline : IsGap lineGap) (hlast : IsGap lastGap) (rest : List Char) {gap : List Char}
    (hgap : IsGap gap) {n : Nat} (hn : xs.length < n) :
    items close item n
      (gap ++ (xs.flatMap (fun x => lineGap ++ text x ++ [',', '\n']) ++
        (lastGap ++ close :: rest))) = some (xs, rest) := by
  induction xs generalizing gap n with
  | nil =>
    obtain ⟨n, rfl⟩ := Nat.exists_eq_succ_of_ne_zero (Nat.ne_of_gt hn)
    have hskip : skip (gap ++ (lastGap ++ close :: rest)) = some (close :: rest) := by
      rw [skip_append hgap, skip_append hlast, skip_close hclose]
    rw [List.flatMap_nil, List.nil_append, ← items_of_skip hskip (skip_close hclose rest)]
    exact items_close (skip_close hclose rest) n
  | cons x xs ih =>
    obtain ⟨n, rfl⟩ := Nat.exists_eq_succ_of_ne_zero (Nat.ne_of_gt (Nat.zero_lt_of_lt hn))
    have hx := hreads x (by simp)
    obtain ⟨c, cs, htext, hopens⟩ := hx.opens
    let after := xs.flatMap (fun x => lineGap ++ text x ++ [',', '\n']) ++
      (lastGap ++ close :: rest)
    have hskip : skip (gap ++ (lineGap ++ (text x ++ ',' :: '\n' :: after))) =
        some (c :: (cs ++ ',' :: '\n' :: after)) := by
      rw [skip_append hgap, skip_append hline, htext, List.cons_append, hopens.skip]
    have hitem : item (c :: (cs ++ ',' :: '\n' :: after)) = some (x, ',' :: '\n' :: after) := by
      rw [← List.cons_append, ← htext]
      exact hx.reads _ (by simp [Ends])
    have hrest := ih (fun y hy => hreads y (by simp [hy])) isGap_newline
      (Nat.succ_lt_succ_iff.mp hn)
    simpa [after] using items_cons hskip (hopens.ne_close hclose) hitem hrest

/-- A part that the closing bracket follows is the last. -/
theorem items_last {n : Nat} {cs ds : List Char} {x : τ} {c : Char}
    (hskip : skip cs = some (c :: ds)) (hne : c ≠ close)
    (hitem : item (c :: ds) = some (x, close :: rest))
    (hclose : close ∈ [')', ']', '\x7d']) : items close item (n + 1) cs = some ([x], rest) := by
  have hcomma : close ≠ ',' := by rintro rfl; simp at hclose
  simp [items, hskip, hne, hitem, skip_close hclose]

/-- A key, a colon and a value are read as a pair. -/
theorem Reads.pair {κ ν : Type} {key : Reader κ} {value : Reader ν} {k : κ} {v : ν}
    {keyText valueText : List Char} (hopens : ∃ c cs, keyText = c :: cs ∧ Opens c)
    (hkey : ∀ rest, key (keyText ++ ':' :: rest) = some (k, ':' :: rest))
    (hvalue : Reads value valueText v) :
    Reads (pair key value) (keyText ++ [':', ' '] ++ valueText) (k, v) := by
  refine ⟨?_, fun rest hrest => ?_⟩
  · obtain ⟨c, cs, htext, hc⟩ := hopens
    exact ⟨c, cs ++ [':', ' '] ++ valueText, by simp [htext], hc⟩
  · obtain ⟨c, cs, htext, hc⟩ := hvalue.opens
    have hcolon : skip (':' :: ' ' :: (valueText ++ rest)) =
        some (':' :: ' ' :: (valueText ++ rest)) := Marked.skip (by simp [Marked])
    have hblank : skip (' ' :: (valueText ++ rest)) = some (valueText ++ rest) := by
      rw [skip_cons_of_isBlank rfl, htext, List.cons_append, hc.skip]
    have hread := hkey (' ' :: (valueText ++ rest))
    simp only [List.append_assoc, List.cons_append, List.nil_append] at hread ⊢
    simp [Reader.pair, hread, hcolon, expect, hblank, hvalue.reads rest hrest]

end Brackets

section Atoms

variable {d : Depth} {rest : List Char}

/-- A literal behind a digit or a minus sign is read as a number. -/
theorem number_append {cs : List Char} (hliteral : Number.isLiteral cs = true)
    (hchars : ∀ c ∈ cs, isLiteralChar c = true) (hrest : Ends rest) :
    number (cs ++ rest) = some (.number (String.ofList cs), rest) := by
  have hend := hrest.marked.isLiteralChar
  simp [number, takeWhile_append_eq hchars hend, dropWhile_append_eq hchars hend, hliteral]

/-- A character before the first boundary of a set is not in it. -/
theorem contains_eq_false_of_lt {s : CodePointSet} {b : Nat} {bs : List Nat} {c : Char}
    (h : s.boundaries = b :: bs) (hc : c.toNat < b) : s.contains c = false := by
  have hfirst : ¬ b ≤ c.toNat := not_le.mpr hc
  simp [CodePointSet.contains, h, hfirst]

/-- A number begins like no identifier. -/
theorem isIdentifierStart_eq_false {c : Char} (h : c.isDigit = true ∨ c = '-') :
    isIdentifierStart c = false := by
  rcases h with h | rfl
  · have hbounds := Decimal.toNat_of_isDigit h
    have hunderscore : c ≠ '_' := by rintro rfl; contradiction
    have hletter : xidStart.contains c = false :=
      contains_eq_false_of_lt
        (show xidStart.boundaries = 65 :: xidStart.boundaries.tail from rfl) (by omega)
    simp [isIdentifierStart, hunderscore, hletter]
  · decide

/-- A value that begins like a number is read as one. -/
theorem unnamed_eq_number {c : Char} (h : c.isDigit = true ∨ c = '-') (cs : List Char) :
    unnamed d (c :: cs) = number (c :: cs) := by
  have hne : c ∉ ['(', '[', '\x7b', 'b', '\'', '"', 'r'] := by
    intro hc
    simp only [List.mem_cons, List.not_mem_nil, or_false] at hc
    rcases hc with rfl | rfl | rfl | rfl | rfl | rfl | rfl <;> revert h <;> decide
  unfold unnamed
  split <;> simp_all

/-- A numeral is read as a number. -/
theorem valueAt_numeral {cs : List Char} (h : IsNumeral cs) (hrest : Ends rest) :
    valueAt .none d (cs ++ rest) = some (.number (String.ofList cs), rest) := by
  rcases h with rfl | ⟨hliteral, hchars, c, hc, hhead⟩
  · simp only [valueAt, identifier_append (show isIdentifier ['i', 'n', 'f'] = true by decide)
      hrest.marked]
    rfl
  · obtain ⟨ds, rfl⟩ := List.head?_eq_some_iff.mp hc
    have hnone := identifier_cons_eq_none (isIdentifierStart_eq_false hhead) (ds ++ rest)
    have hnumber := number_append hliteral hchars hrest
    rw [List.cons_append] at hnumber ⊢
    simp only [valueAt, hnone]
    rw [unnamed_eq_number hhead, hnumber]

/-- A quoted text is read as the text. -/
theorem valueAt_text (cs : List Char) (rest : List Char) :
    valueAt .none d (Quoted.encode cs ++ rest) = some (.text (String.ofList cs), rest) := by
  have hdecode := Quoted.decode_encode cs rest
  have hquote : isIdentifierStart '"' = false := by decide
  simp only [Quoted.encode, List.cons_append, List.append_assoc, List.nil_append]
  simp only [valueAt, identifier_cons_eq_none hquote]
  simp [unnamed, quotedText, hdecode, Except.toOption]

end Atoms

section Words

variable {d : Depth} {rest : List Char}

/-- The words that are values of their own or stand before one. -/
def keywords : List String :=
  ["true", "false", "None", "Some", "inf", "inff32", "inff64", "NaN", "NaNf32", "NaNf64"]

/-- Whether a name is read as a tag, or as the name of a record, a tuple or a field. -/
def isName (name : String) : Bool := isIdentifier name.toList && !keywords.contains name

/-- A name is none of the words that are read otherwise. -/
theorem named_eq {name : String} (h : isName name = true) (cs : List Char) :
    named .none d ⟨false, name⟩ cs = (skip cs).bind fun ds =>
      match ds with
      | '(' :: rest =>
        if d.opens then parenthesized (some name) (cs.head? ≠ some '(') d.part rest else none
      | rest => some (.word name, rest) := by
  have hne : name ∉ keywords := by
    simp only [isName, Bool.and_eq_true, Bool.not_eq_true', List.contains_eq_mem,
      decide_eq_false_iff_not] at h
    exact h.2
  simp only [keywords, List.mem_cons, List.not_mem_nil, or_false, not_or] at hne
  simp only [named, isRealWord, hne, decide_false, Bool.and_false, Bool.or_false,
    Bool.false_eq_true, ite_false]
  rfl

/-- A name that nothing opens behind is read as a tag. -/
theorem valueAt_word {name : String} (h : isName name = true) (hrest : Ends rest) :
    valueAt .none d (name.toList ++ rest) = some (.word name, rest) := by
  have hidentifier : isIdentifier name.toList = true := (Bool.and_eq_true_iff.mp h).1
  simp only [valueAt, identifier_append hidentifier hrest.marked, String.ofList_toList]
  rw [named_eq h, hrest.marked.skip, Option.bind_some]
  split
  · exact absurd (hrest '(' rfl) (by decide)
  · rfl

/-- A name in front of a parenthesis is read as that of a record or a tuple. -/
theorem valueAt_parenthesis {name : String} (h : isName name = true) (hd : d.opens = true)
    (cs : List Char) :
    valueAt .none d (name.toList ++ '(' :: cs) = parenthesized (some name) false d.part cs := by
  have hidentifier : isIdentifier name.toList = true := (Bool.and_eq_true_iff.mp h).1
  have hmarked : Marked ('(' :: cs) := by simp [Marked]
  simp only [valueAt, identifier_append hidentifier hmarked, String.ofList_toList]
  rw [named_eq h, hmarked.skip]
  simp [hd]

/-- What a bracket encloses is read as a list. -/
theorem valueAt_bracket (hd : d.opens = true) {cs : List Char} {vs : List Value}
    (h : enclosed ']' d.part cs = some (vs, rest)) :
    valueAt .none d ('[' :: cs) = some (.list vs, rest) := by
  have hnone : identifier ('[' :: cs) = none := identifier_cons_eq_none (by decide) cs
  simp [valueAt, hnone, unnamed, hd, h]

/-- What a brace encloses is read as a dictionary. -/
theorem valueAt_brace (hd : d.opens = true) {cs : List Char} {entries : List (Value × Value)}
    (h : enclosed '\x7d' (pair d.part d.part) cs = some (entries, rest)) :
    valueAt .none d ('\x7b' :: cs) = some (.dict entries, rest) := by
  have hnone : identifier ('\x7b' :: cs) = none := identifier_cons_eq_none (by decide) cs
  simp [valueAt, hnone, unnamed, hd, h]

/-- A truth value is read as itself. -/
theorem valueAt_bool (b : Bool) (hrest : Ends rest) :
    valueAt .none d (Value.atom (.bool b) ++ rest) = some (.bool b, rest) := by
  cases b with
  | false =>
    have hword := identifier_append (show isIdentifier "false".toList = true by decide) hrest.marked
    simp only [valueAt, Value.atom, Bool.false_eq_true, ↓reduceIte, hword]
    rfl
  | true =>
    have hword := identifier_append (show isIdentifier "true".toList = true by decide) hrest.marked
    simp only [valueAt, Value.atom, ↓reduceIte, hword]
    rfl

end Words

end Reader

end Shipwright.Ron
