import Shipwright.Proofs.Ron.Reader

/-!
# Documents read back

A value written in full is read back as that value. The reader stops right behind it, because
what the writer puts there belongs to no word and to no number, and it never takes an item of a
tuple for a field. Every bracket takes two units of depth, so a value that is nested no deeper
than half of a document's units is read whatever it holds.
-/

namespace Shipwright.Ron

namespace Value

open Reader

/-- Values of which the full form tells all, with no more than so many brackets inside each
other: numbers are numerals, tags and names are names, and a record has a field. -/
inductive Written : Nat → Value → Prop
  | bool {n : Nat} (b : Bool) : Written n (.bool b)
  | number {n : Nat} {literal : String} (h : IsNumeral literal.toList) : Written n (.number literal)
  | text {n : Nat} (s : String) : Written n (.text s)
  | word {n : Nat} {name : String} (h : isName name = true) : Written n (.word name)
  | record {n : Nat} {name : String} {fields : List (String × Value)} (hname : isName name = true)
      (hne : fields ≠ []) (hfields : ∀ f ∈ fields, isName f.1 = true)
      (hvalues : ∀ f ∈ fields, Written n f.2) : Written (n + 1) (.record (some name) fields)
  | tuple {n : Nat} {name : String} {items : List Value} (hname : isName name = true)
      (hitems : ∀ v ∈ items, Written n v) : Written (n + 1) (.tuple (some name) false items)
  | list {n : Nat} {items : List Value} (hitems : ∀ v ∈ items, Written n v) :
      Written (n + 1) (.list items)
  | dict {n : Nat} {entries : List (Value × Value)} (hkeys : ∀ e ∈ entries, Written n e.1)
      (hvalues : ∀ e ∈ entries, Written n e.2) : Written (n + 1) (.dict entries)

section Blocks

variable {τ : Type} {item : Reader τ} {close : Char}

/-- The lines of parts at some depth, one for each, with a comma behind it. -/
def rows (depth : Nat) (text : τ → List Char) (xs : List τ) : List Char :=
  xs.flatMap fun x => indent depth ++ text x ++ [',', '\n']

/-- A line has a character for each part. -/
theorem length_le_rows (depth : Nat) (text : τ → List Char) (xs : List τ) :
    xs.length ≤ (rows depth text xs).length := length_le_length_flatMap (by simp) xs

/-- The fields of a record stand on lines of their own. -/
theorem prettyFields_eq (depth : Nat) (fields : List (String × Value)) :
    prettyFields depth fields =
      rows depth (fun f => f.1.toList ++ [':', ' '] ++ pretty depth f.2) fields := by
  induction fields with
  | nil => rfl
  | cons f fields ih => simp [prettyFields, ih, rows]

/-- The items of a list stand on lines of their own. -/
theorem prettyItems_eq (depth : Nat) (items : List Value) :
    prettyItems depth items = rows depth (pretty depth) items := by
  induction items with
  | nil => rfl
  | cons v items ih => simp [prettyItems, ih, rows]

/-- The entries of a dictionary stand on lines of their own. -/
theorem prettyEntries_eq (depth : Nat) (entries : List (Value × Value)) :
    prettyEntries depth entries =
      rows depth (fun e => pretty depth e.1 ++ [':', ' '] ++ pretty depth e.2) entries := by
  induction entries with
  | nil => rfl
  | cons e entries ih => simp [prettyEntries, ih, rows]

/-- The lines inside a bracket are read one by one, up to the closing bracket. -/
theorem items_block {text : τ → List Char} {xs : List τ}
    (hreads : ∀ x ∈ xs, Reads item (text x) x) (hclose : close ∈ [')', ']', '\x7d'])
    (depth : Nat) (rest : List Char) {n : Nat} (hn : xs.length < n) :
    items close item n (block depth (rows (depth + 1) text xs) ++ close :: rest) =
      some (xs, rest) := by
  cases xs with
  | nil => exact items_lines hreads hclose (isGap_indent (depth + 1)) isGap_nil rest isGap_nil hn
  | cons x xs =>
    have hread := items_lines hreads hclose (isGap_indent (depth + 1)) (isGap_indent depth) rest
      isGap_newline hn
    simpa [block, rows] using hread

/-- A block holds all of its lines. -/
theorem length_le_block (depth : Nat) (lines : List Char) :
    lines.length ≤ (block depth lines).length := by
  unfold block
  split
  · rename_i hempty
    rw [List.isEmpty_iff.mp hempty]
  · simp only [List.length_append, List.length_cons]
    omega

/-- What is written between brackets, line by line, is read as its parts. -/
theorem enclosed_block {text : τ → List Char} {xs : List τ}
    (hreads : ∀ x ∈ xs, Reads item (text x) x) (hclose : close ∈ [')', ']', '\x7d'])
    (depth : Nat) (rest : List Char) :
    enclosed close item (block depth (rows (depth + 1) text xs) ++ close :: rest) =
      some (xs, rest) := by
  refine items_block hreads hclose depth rest ?_
  have hrows := length_le_rows (depth + 1) text xs
  have hblock := length_le_block depth (rows (depth + 1) text xs)
  simp only [List.length_append]
  omega

/-- The items of a tuple on one line are read one by one, up to the closing parenthesis. -/
theorem items_row {part : Reader Value} {vs : List Value} {depth : Nat}
    (hreads : ∀ v ∈ vs, Reads part (pretty depth v) v) (rest : List Char) {gap : List Char}
    (hgap : IsGap gap) {n : Nat} (hn : vs.length < n) :
    items ')' part n (gap ++ (prettyRow depth vs ++ ')' :: rest)) = some (vs, rest) := by
  have hclose : ')' ∈ [')', ']', '\x7d'] := by simp
  induction vs generalizing gap n with
  | nil =>
    obtain ⟨n, rfl⟩ := Nat.exists_eq_succ_of_ne_zero (Nat.ne_of_gt hn)
    have hskip : skip (gap ++ ')' :: rest) = some (')' :: rest) := by
      rw [skip_append hgap, skip_close hclose]
    rw [prettyRow, List.nil_append, ← items_of_skip hskip (skip_close hclose rest)]
    exact items_close (skip_close hclose rest) n
  | cons v vs ih =>
    obtain ⟨n, rfl⟩ := Nat.exists_eq_succ_of_ne_zero (Nat.ne_of_gt (Nat.zero_lt_of_lt hn))
    have hv := hreads v (by simp)
    obtain ⟨c, cs, htext, hopens⟩ := hv.opens
    have hskip : ∀ after, skip (gap ++ (pretty depth v ++ after)) = some (c :: (cs ++ after)) := by
      intro after
      rw [skip_append hgap, htext, List.cons_append, hopens.skip]
    have hitem : ∀ after, Ends after → part (c :: (cs ++ after)) = some (v, after) := by
      intro after hafter
      rw [← List.cons_append, ← htext]
      exact hv.reads after hafter
    cases vs with
    | nil =>
      have hlast := items_last (hskip (')' :: rest)) (hopens.ne_close hclose)
        (hitem (')' :: rest) (by simp [Ends])) hclose (n := n)
      simpa [prettyRow] using hlast
    | cons w ws =>
      have hrest := ih (fun u hu => hreads u (by simp [hu])) isGap_space
        (Nat.succ_lt_succ_iff.mp hn)
      have hmore := items_cons (hskip (',' :: ' ' :: (prettyRow depth (w :: ws) ++ ')' :: rest)))
        (hopens.ne_close hclose) (hitem _ (by simp [Ends])) hrest
      simpa [prettyRow] using hmore

/-- A line of items has a character for each. -/
theorem length_le_prettyRow {part : Reader Value} {vs : List Value} {depth : Nat}
    (hreads : ∀ v ∈ vs, Reads part (pretty depth v) v) :
    vs.length ≤ (prettyRow depth vs).length := by
  induction vs with
  | nil => rfl
  | cons v vs ih =>
    obtain ⟨c, cs, htext, -⟩ := (hreads v (by simp)).opens
    have := ih fun u hu => hreads u (by simp [hu])
    simp only [prettyRow, htext, List.length_append, List.length_cons]
    omega

end Blocks

section Parentheses

variable {part : Reader Value}

/-- A name begins like a part. -/
theorem exists_opens_of_isName {name : String} (h : isName name = true) :
    ∃ c cs, name.toList = c :: cs ∧ Opens c := by
  have hidentifier : isIdentifier name.toList = true := (Bool.and_eq_true_iff.mp h).1
  cases hname : name.toList with
  | nil => simp [hname, isIdentifier] at hidentifier
  | cons c cs =>
    simp only [hname, isIdentifier, Bool.and_eq_true] at hidentifier
    exact ⟨c, cs, rfl, opens_of_isIdentifierStart hidentifier.1⟩

/-- The name of a field is read up to the colon behind it. -/
theorem fieldName_colon {name : String} (h : isName name = true) (rest : List Char) :
    fieldName (name.toList ++ ':' :: rest) = some (name, ':' :: rest) := by
  have hidentifier : isIdentifier name.toList = true := (Bool.and_eq_true_iff.mp h).1
  rw [fieldName_append hidentifier (by simp [Marked]), String.ofList_toList]

/-- A name and a colon open a field. -/
theorem opensField_colon {name : String} (h : isName name = true) (rest : List Char) :
    opensField (name.toList ++ ':' :: rest) = true := by
  have hidentifier : isIdentifier name.toList = true := (Bool.and_eq_true_iff.mp h).1
  have hmarked : Marked (':' :: rest) := by simp [Marked]
  simp [opensField, identifier_append hidentifier hmarked, hmarked.skip]

/-- Fields on lines of their own are read as a record. -/
theorem parenthesized_fields {fields : List (String × Value)} {depth : Nat} (hne : fields ≠ [])
    (hnames : ∀ f ∈ fields, isName f.1 = true)
    (hreads : ∀ f ∈ fields, Reads part (pretty (depth + 1) f.2) f.2) (name : Option String)
    (spaced : Bool) (rest : List Char) :
    parenthesized name spaced part
      (block depth (prettyFields (depth + 1) fields) ++ ')' :: rest) =
      some (.record name fields, rest) := by
  have hpairs : ∀ f ∈ fields, Reads (pair fieldName part)
      (f.1.toList ++ [':', ' '] ++ pretty (depth + 1) f.2) f := fun f hf =>
    .pair (exists_opens_of_isName (hnames f hf)) (fieldName_colon (hnames f hf)) (hreads f hf)
  obtain ⟨f, fs, rfl⟩ := List.exists_cons_of_ne_nil hne
  have hname := hnames f (by simp)
  obtain ⟨c, cs, htext, hopens⟩ := exists_opens_of_isName hname
  let after := ' ' :: (pretty (depth + 1) f.2 ++ ',' :: '\n' ::
    (prettyFields (depth + 1) fs ++ (indent depth ++ ')' :: rest)))
  have hcut : block depth (prettyFields (depth + 1) (f :: fs)) ++ ')' :: rest =
      '\n' :: (indent (depth + 1) ++ (f.1.toList ++ ':' :: after)) := by
    simp [block, prettyFields, after]
  have hskip : skip (block depth (prettyFields (depth + 1) (f :: fs)) ++ ')' :: rest) =
      some (f.1.toList ++ ':' :: after) := by
    rw [hcut, skip_cons_of_isBlank rfl, skip_append (isGap_indent _), htext,
      List.cons_append, hopens.skip]
  have hskip' : skip (f.1.toList ++ ':' :: after) = some (f.1.toList ++ ':' :: after) := by
    rw [htext, List.cons_append, hopens.skip]
  have hlength : (f :: fs).length < (f.1.toList ++ ':' :: after).length + 1 := by
    have hrows := length_le_rows (depth + 1)
      (fun f : String × Value => f.1.toList ++ [':', ' '] ++ pretty (depth + 1) f.2) fs
    rw [← prettyFields_eq] at hrows
    simp only [after, List.length_append, List.length_cons]
    omega
  have hread : enclosed ')' (pair fieldName part) (f.1.toList ++ ':' :: after) =
      some (f :: fs, rest) := by
    rw [enclosed, items_of_skip hskip hskip', prettyFields_eq]
    exact items_block hpairs (by simp) depth rest hlength
  simp only [parenthesized, hskip, Option.bind_eq_bind, Option.bind_some, opensField_colon hname,
    ite_true, hread]
  rfl

/-- Items on one line are read as a tuple, unless the first looks like a field. -/
theorem parenthesized_row {vs : List Value} {depth : Nat} {rest : List Char}
    (hreads : ∀ v ∈ vs, Reads part (pretty depth v) v)
    (hfield : opensField (prettyRow depth vs ++ ')' :: rest) = false) (name : Option String)
    (spaced : Bool) :
    parenthesized name spaced part (prettyRow depth vs ++ ')' :: rest) =
      some (.tuple name spaced vs, rest) := by
  have hskip : skip (prettyRow depth vs ++ ')' :: rest) =
      some (prettyRow depth vs ++ ')' :: rest) := by
    cases vs with
    | nil => exact skip_close (by simp) rest
    | cons v vs =>
      obtain ⟨c, cs, htext, hopens⟩ := (hreads v (by simp)).opens
      simp only [prettyRow, htext, List.cons_append, hopens.skip]
  have hlength : vs.length < (prettyRow depth vs ++ ')' :: rest).length + 1 := by
    have := length_le_prettyRow hreads
    simp only [List.length_append]
    omega
  have hread : enclosed ')' part (prettyRow depth vs ++ ')' :: rest) = some (vs, rest) :=
    items_row hreads rest isGap_nil hlength
  simp only [parenthesized, hskip, Option.bind_eq_bind, Option.bind_some, hfield,
    Bool.false_eq_true, ite_false, hread]
  rfl

end Parentheses

section Reading

/-- A value written in full begins like a part. -/
theorem Written.opens {n : Nat} {v : Value} (h : v.Written n) (depth : Nat) :
    ∃ c cs, pretty depth v = c :: cs ∧ Opens c := by
  cases h with
  | bool b =>
    cases b with
    | false => exact ⟨'f', ['a', 'l', 's', 'e'], rfl, by decide⟩
    | true => exact ⟨'t', ['r', 'u', 'e'], rfl, by decide⟩
  | @number _ literal h =>
    rcases h with hinf | ⟨-, -, c, hc, hhead⟩
    · exact ⟨'i', ['n', 'f'], hinf, by decide⟩
    · obtain ⟨cs, hcs⟩ := List.head?_eq_some_iff.mp hc
      refine ⟨c, cs, hcs, ?_⟩
      rcases hhead with hdigit | rfl
      · exact opens_of_isDigit hdigit
      · decide
  | text s => exact ⟨_, _, rfl, by decide⟩
  | word h => exact exists_opens_of_isName h
  | record hname hne hfields hvalues =>
    obtain ⟨c, cs, htext, hc⟩ := exists_opens_of_isName hname
    exact ⟨c, _, by simp [pretty, nameChars, htext]; rfl, hc⟩
  | tuple hname hitems =>
    obtain ⟨c, cs, htext, hc⟩ := exists_opens_of_isName hname
    exact ⟨c, _, by simp [pretty, nameChars, htext]; rfl, hc⟩
  | list hitems => exact ⟨_, _, rfl, by decide⟩
  | dict hkeys hvalues => exact ⟨_, _, rfl, by decide⟩

/-- An identifier in front of a mark other than a colon opens no field. -/
theorem opensField_append_eq_false {name rest : List Char} (hname : isIdentifier name = true)
    (hrest : Marked rest) (hcolon : rest.head? ≠ some ':') : opensField (name ++ rest) = false := by
  simp [opensField, identifier_append hname hrest, hrest.skip, hcolon]

/-- What does not begin like an identifier opens no field. -/
theorem opensField_cons_eq_false {c : Char} (h : isIdentifierStart c = false) (cs : List Char) :
    opensField (c :: cs) = false := by
  simp only [opensField, identifier_cons_eq_none h]

/-- No value written in full looks like a field where the mark behind it is no colon. -/
theorem Written.opensField {n : Nat} {v : Value} (h : v.Written n) (depth : Nat)
    {rest : List Char} (hrest : Marked rest) (hcolon : rest.head? ≠ some ':') :
    opensField (pretty depth v ++ rest) = false := by
  have hnamed : ∀ {name : String}, isName name = true → ∀ cs : List Char,
      Reader.opensField (name.toList ++ '(' :: cs) = false := fun hname cs =>
    opensField_append_eq_false (Bool.and_eq_true_iff.mp hname).1 (by simp [Marked]) (by simp)
  cases h with
  | bool b =>
    cases b with
    | false =>
      exact opensField_append_eq_false (show isIdentifier "false".toList = true by decide) hrest
        hcolon
    | true =>
      exact opensField_append_eq_false (show isIdentifier "true".toList = true by decide) hrest
        hcolon
  | @number _ literal h =>
    simp only [pretty, atom]
    rcases h with hinf | ⟨-, -, c, hc, hhead⟩
    · rw [hinf]
      exact opensField_append_eq_false (by decide) hrest hcolon
    · obtain ⟨cs, hcs⟩ := List.head?_eq_some_iff.mp hc
      rw [hcs]
      exact opensField_cons_eq_false (isIdentifierStart_eq_false hhead) _
  | text s => exact opensField_cons_eq_false (by decide) _
  | word h => exact opensField_append_eq_false (Bool.and_eq_true_iff.mp h).1 hrest hcolon
  | record hname hne hfields hvalues => simpa [pretty, nameChars] using hnamed hname _
  | tuple hname hitems => simpa [pretty, nameChars] using hnamed hname _
  | list hitems => exact opensField_cons_eq_false (by decide) _
  | dict hkeys hvalues => exact opensField_cons_eq_false (by decide) _

/-- The first item of a tuple does not look like a field. -/
theorem opensField_prettyRow {n : Nat} {vs : List Value} (h : ∀ v ∈ vs, v.Written n) (depth : Nat)
    (rest : List Char) : opensField (prettyRow depth vs ++ ')' :: rest) = false := by
  cases vs with
  | nil => exact opensField_cons_eq_false (by decide) rest
  | cons v vs =>
    let after := (if vs.isEmpty then [] else [',', ' ']) ++ (prettyRow depth vs ++ ')' :: rest)
    have hmarked : Marked after := by cases vs <;> simp [after, Marked, prettyRow]
    have hcolon : after.head? ≠ some ':' := by cases vs <;> simp [after, prettyRow]
    simpa [after, prettyRow] using (h v (by simp)).opensField depth hmarked hcolon

/-- A value written in full is read back as itself. -/
theorem Written.reads {n : Nat} {v : Value} (h : v.Written n) (depth : Nat) :
    Reads (value .none (2 * n)) (pretty depth v) v := by
  refine ⟨h.opens depth, fun rest hrest => ?_⟩
  induction h generalizing depth rest with
  | bool b => exact valueAt_bool b hrest
  | @number n literal h =>
    have hread := valueAt_numeral (d := Reader.depth .none (2 * n)) h hrest
    rwa [String.ofList_toList] at hread
  | @text n s =>
    have hread := valueAt_text (d := Reader.depth .none (2 * n)) s.toList rest
    rwa [String.ofList_toList] at hread
  | word h => exact valueAt_word h hrest
  | @record n name fields hname hne hfields hvalues ih =>
    have hparts : ∀ f ∈ fields, Reads (value .none (2 * n)) (pretty (depth + 1) f.2) f.2 :=
      fun f hf => ⟨(hvalues f hf).opens _, ih f hf (depth + 1)⟩
    have hread := parenthesized_fields hne hfields hparts (some name) false rest
    have hopen := valueAt_parenthesis (d := Reader.depth .none (2 * (n + 1))) hname rfl
      (block depth (prettyFields (depth + 1) fields) ++ ')' :: rest)
    simpa [value, pretty, nameChars] using hopen.trans hread
  | @tuple n name items hname hitems ih =>
    have hparts : ∀ v ∈ items, Reads (value .none (2 * n)) (pretty depth v) v :=
      fun v hv => ⟨(hitems v hv).opens _, ih v hv depth⟩
    have hread := parenthesized_row hparts (opensField_prettyRow hitems depth rest) (some name)
      false
    have hopen := valueAt_parenthesis (d := Reader.depth .none (2 * (n + 1))) hname rfl
      (prettyRow depth items ++ ')' :: rest)
    simpa [value, pretty, nameChars] using hopen.trans hread
  | @list n items hitems ih =>
    have hparts : ∀ v ∈ items, Reads (value .none (2 * n)) (pretty (depth + 1) v) v :=
      fun v hv => ⟨(hitems v hv).opens _, ih v hv (depth + 1)⟩
    have hread := enclosed_block hparts (show ']' ∈ [')', ']', '\x7d'] by simp) depth rest
    rw [← prettyItems_eq] at hread
    simpa [value, pretty] using valueAt_bracket (d := Reader.depth .none (2 * (n + 1))) rfl hread
  | @dict n entries hkeys hvalues ihkeys ihvalues =>
    have hparts : ∀ e ∈ entries, Reads (pair (value .none (2 * n)) (value .none (2 * n)))
        (pretty (depth + 1) e.1 ++ [':', ' '] ++ pretty (depth + 1) e.2) e := fun e he =>
      .pair ((hkeys e he).opens _) (fun rest => ihkeys e he (depth + 1) _ (by simp [Ends]))
        ⟨(hvalues e he).opens _, ihvalues e he (depth + 1)⟩
    have hread := enclosed_block hparts (show '\x7d' ∈ [')', ']', '\x7d'] by simp) depth rest
    rw [← prettyEntries_eq] at hread
    simpa [value, pretty] using valueAt_brace (d := Reader.depth .none (2 * (n + 1))) rfl hread

/-- The document of a value written in full is read back as that value, without extensions. -/
theorem document_pretty {v : Value} (h : v.Written (maxDepth / 2)) :
    document (pretty 0 v) = some (.none, v) := by
  obtain ⟨c, cs, htext, hopens⟩ := h.opens 0
  have hskip : skip (pretty 0 v) = some (pretty 0 v) := by
    rw [htext, hopens.skip]
  have hattributes : ∀ count, attributes count .none (pretty 0 v) = some (.none, pretty 0 v) := by
    intro count
    have hhash : c ≠ '#' := by rintro rfl; exact absurd hopens (by decide)
    cases count <;> simp [attributes, htext, hhash]
  have hread : value .none maxDepth (pretty 0 v) = some (v, []) := by
    have hwhole := (h.reads 0).reads [] (by simp [Ends])
    rwa [List.append_nil, show 2 * (maxDepth / 2) = maxDepth from rfl] at hwhole
  have hend : skip [] = some [] := rfl
  simp [document, hskip, hattributes, hread, hend]

end Reading

end Value

end Shipwright.Ron
