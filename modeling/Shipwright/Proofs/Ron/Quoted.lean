import Shipwright.Proofs.Ron.Number

/-!
# Quoted texts read back

Whatever characters a text has, its quoted form is read back as them: each character is written
in a form that stands for it alone, and the first quote that is not written behind a backslash is
the one that closes the text.
-/

namespace Shipwright.Ron.Quoted

open Number

/-- Hexadecimal digits are less than sixteen. -/
theorem hexDigit?_lt {c : Char} {d : Nat} (h : hexDigit? c = some d) : d < 16 := by
  simp only [hexDigit?, Char.isDigit, Bool.and_eq_true, decide_eq_true_eq, ge_iff_le, Char.le_def,
    UInt32.le_iff_toNat_le] at h
  split_ifs at h with hdigit hsmall hlarge
  · have hhigh : c.toNat ≤ 57 := hdigit.2
    injection h
    omega
  · have hhigh : c.toNat ≤ 102 := hsmall.2
    injection h
    omega
  · have hhigh : c.toNat ≤ 70 := hlarge.2
    injection h
    omega

/-- Digits without underscores are read in base sixteen. -/
theorem foldlM_hexDigit? {cs : List Char} (h : '_' ∉ cs) (n : Nat) :
    cs.foldlM (fun n c => (hexDigit? c).map (16 * n + ·)) n = valueFrom 16 n cs := by
  induction cs generalizing n with
  | nil => rfl
  | cons c cs ih =>
    rw [List.mem_cons, not_or] at h
    simp only [List.foldlM_cons, valueFrom, Ne.symm h.1, ↓reduceIte]
    cases hc : hexDigit? c with
    | none => rfl
    | some d => simpa [hexDigit?_lt hc] using ih h.2 _

/-- The hexadecimal digits of a number have that number for a value. -/
theorem hexValue?_toDigits (n : Nat) : hexValue? (Nat.toDigits 16 n) = some n := by
  have hunderscore : '_' ∉ Nat.toDigits 16 n := by
    intro hc
    obtain ⟨d, hd, heq⟩ := exists_digit_of_mem_toDigits (by decide) hc
    exact (digitChar_ne hd).1 heq.symm
  rw [hexValue?, foldlM_hexDigit? hunderscore, valueFrom_toDigits (by decide) (by decide)]

/-- The character of a code point is the one it belongs to. -/
theorem charOf?_toNat (c : Char) : charOf? c.toNat = some c := by
  have hvalid : c.toNat.isValidChar := c.valid
  exact dif_pos hvalid

/-- A code point in braces is read as its character. -/
theorem codePoint_toDigits (c : Char) (rest : List Char) :
    codePoint ('\x7b' :: Nat.toDigits 16 c.toNat ++ '\x7d' :: rest) = some (c, rest) := by
  have hbrace : ∀ d ∈ Nat.toDigits 16 c.toNat, decide (d ≠ '\x7d') = true := by
    intro d hd
    obtain ⟨n, hn, rfl⟩ := exists_digit_of_mem_toDigits (by decide) hd
    exact decide_eq_true (digitChar_ne hn).2
  have hlength : (Nat.toDigits 16 c.toNat).length ≤ 6 := by
    rw [Nat.length_toDigits_le_iff (by decide) (by decide)]
    have hvalid : c.toNat.isValidChar := c.valid
    rcases hvalid with h | h <;> omega
  have hclose : ∀ d ∈ ('\x7d' :: rest).head?, decide (d ≠ '\x7d') = false := by
    rintro d ⟨⟩
    rfl
  have hempty : (Nat.toDigits 16 c.toNat).isEmpty = false :=
    List.isEmpty_eq_false_iff.mpr Nat.toDigits_ne_nil
  simp only [List.cons_append, codePoint, takeWhile_append_eq hbrace hclose,
    dropWhile_append_eq hbrace hclose]
  simp [hempty, not_lt.mpr hlength, hexValue?_toDigits, charOf?_toNat]

/-- The written form of a character is read as that character. -/
theorem body_encodeChar (n : Nat) (c : Char) (rest : List Char) :
    body (n + 1) (encodeChar c ++ rest) = (body n rest).map fun p => (c :: p.1, p.2) := by
  by_cases hquote : c = '"'
  · subst hquote
    rfl
  by_cases hbackslash : c = '\\'
  · subst hbackslash
    rfl
  unfold encodeChar
  split_ifs with hzero htab hline hreturn hapostrophe hprintable
  all_goals try subst c; rfl
  · rw [List.singleton_append, body]
    · exact hquote
    · exact hbackslash
  · have hescape : escape 4 ('u' :: '\x7b' :: Nat.toDigits 16 c.toNat ++ '\x7d' :: rest) =
        some (c, rest) := codePoint_toDigits c rest
    simp only [List.cons_append, List.append_assoc, List.nil_append] at hescape ⊢
    rw [body, hescape]

/-- The quoted form of a text is read as that text, up to its closing quote. -/
theorem body_encode {n : Nat} {cs : List Char} (h : cs.length < n) (rest : List Char) :
    body n (cs.flatMap encodeChar ++ '"' :: rest) = .ok (cs, rest) := by
  induction cs generalizing n with
  | nil =>
    obtain ⟨n, rfl⟩ := Nat.exists_eq_succ_of_ne_zero (Nat.ne_of_gt h)
    rfl
  | cons c cs ih =>
    obtain ⟨n, rfl⟩ := Nat.exists_eq_succ_of_ne_zero (Nat.ne_of_gt (Nat.zero_lt_of_lt h))
    rw [List.flatMap_cons, List.append_assoc, Nat.succ_eq_add_one, body_encodeChar,
      ih (Nat.succ_lt_succ_iff.mp h)]
    rfl

/-- Every character is written by at least one. -/
theorem encodeChar_ne_nil (c : Char) : encodeChar c ≠ [] := by
  unfold encodeChar
  split_ifs <;> simp

/-- A quoted text behind its opening quote is read as the characters it was written from. -/
theorem decode_encode (cs rest : List Char) :
    decode (cs.flatMap encodeChar ++ '"' :: rest) = .ok (cs, rest) := by
  refine body_encode ?_ rest
  have := length_le_length_flatMap encodeChar_ne_nil cs
  simp only [List.length_append]
  omega

end Shipwright.Ron.Quoted
