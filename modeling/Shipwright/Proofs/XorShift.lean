import Mathlib.Data.List.Nodup
import Mathlib.Logic.Function.Iterate
import Shipwright.XorShift

/-!
# Streams agree always or never

Each of the three folds of a round can be undone bit by bit, so a round takes different words to
different words, and only zero to zero. Two streams therefore agree at one draw just if they start
from one word, and then they are the same stream. Under one salt this happens to two seeds only if
one of them is replaced by the start of the other; under one seed it happens to none of the salts.
-/

namespace Shipwright

/-- Folding a word with itself shifted up loses nothing: a bit is folded with a lower one, so two
words agree from the lowest bit up. -/
theorem xor_shiftLeft_injective {w n : Nat} (hn : 0 < n) :
    Function.Injective fun x : BitVec w => x ^^^ (x <<< n) := by
  intro x y hfold
  have hbits : ∀ i, i < w → x.getLsbD i = y.getLsbD i := by
    intro i
    induction i using Nat.strongRecOn with
    | ind i ih =>
      intro hi
      have hbit := congrArg (BitVec.getLsbD · i) hfold
      simp only [BitVec.getLsbD_xor, BitVec.getLsbD_shiftLeft, hi, decide_true,
        Bool.true_and] at hbit
      by_cases hlow : i < n
      · simpa [hlow] using hbit
      · rw [ih (i - n) (by omega) (by omega)] at hbit
        exact Bool.xor_left_inj.mp hbit
  exact BitVec.eq_of_getLsbD_eq hbits

/-- Folding a word with itself shifted down loses nothing: a bit is folded with a higher one, so two
words agree from the highest bit down. -/
theorem xor_shiftRight_injective {w n : Nat} (hn : 0 < n) :
    Function.Injective fun x : BitVec w => x ^^^ (x >>> n) := by
  intro x y hfold
  have hbits : ∀ j i, i + j = w → x.getLsbD i = y.getLsbD i := by
    intro j
    induction j using Nat.strongRecOn with
    | ind j ih =>
      intro i hij
      have hbit := congrArg (BitVec.getLsbD · i) hfold
      simp only [BitVec.getLsbD_xor, BitVec.getLsbD_ushiftRight] at hbit
      by_cases hhigh : w ≤ n + i
      · simpa [BitVec.getLsbD_of_ge _ _ hhigh] using hbit
      · rw [ih (j - n) (by omega) (n + i) (by omega)] at hbit
        exact Bool.xor_left_inj.mp hbit
  exact BitVec.eq_of_getLsbD_eq fun i hi => hbits (w - i) i (by omega)

namespace XorShift

/-- A round takes different words to different words. -/
theorem advance_injective : Function.Injective advance := by
  intro x y h
  have h := congrArg UInt64.toBitVec h
  simp only [advance, UInt64.toBitVec_xor, UInt64.toBitVec_shiftLeft,
    UInt64.toBitVec_shiftRight] at h
  have h := xor_shiftLeft_injective (n := 17) (by decide) h
  have h := xor_shiftRight_injective (n := 7) (by decide) h
  exact UInt64.toBitVec_inj.mp (xor_shiftLeft_injective (n := 13) (by decide) h)

/-- The stream after some draws. -/
def after (s : XorShift) (k : Nat) : XorShift := (fun s => s.next.2)^[k] s

/-- The raw word that is drawn after so many others. -/
def word (s : XorShift) (k : Nat) : UInt64 := (s.after k).next.1

/-- The words that are drawn one after the other are those of the stream. -/
theorem draws_next_eq_map_word (s : XorShift) (i n : Nat) :
    (draws (fun _ s => s.next) i n s).1 = (List.range n).map s.word := by
  induction n generalizing i s with
  | zero => rfl
  | succ n ih =>
    have hword : ∀ k, s.next.2.word k = s.word (k + 1) := fun _ => rfl
    rw [List.range_succ_eq_map, List.map_cons, List.map_map]
    exact congrArg (s.next.1 :: ·)
      ((ih s.next.2 (i + 1)).trans (List.map_congr_left fun k _ => hword k))

/-- A word of a stream is its start after so many rounds and one more. -/
theorem word_eq_iterate (s : XorShift) (k : Nat) : s.word k = advance^[k + 1] s.state := by
  have hstate : (s.after k).state = advance^[k] s.state :=
    Function.Semiconj.iterate_right (f := state) (fun _ => rfl) k s
  rw [Function.iterate_succ_apply', ← hstate]
  rfl

/-- Two streams agree at a draw just if they start from one word. -/
theorem word_eq_word_iff {s t : XorShift} {k : Nat} : s.word k = t.word k ↔ s = t := by
  rw [word_eq_iterate, word_eq_iterate, (advance_injective.iterate (k + 1)).eq_iff]
  exact ⟨fun h => congrArg mk h, congrArg state⟩

/-- A stream that does not start from zero never draws zero. -/
theorem word_ne_zero {s : XorShift} (h : s.state ≠ 0) (k : Nat) : s.word k ≠ 0 := by
  have hzero : advance^[k + 1] 0 = 0 := Function.iterate_fixed (by decide) (k + 1)
  rw [word_eq_iterate, ← hzero]
  exact (advance_injective.iterate (k + 1)).ne h

/-- No stream that is made from a seed starts from zero. -/
theorem state_ofSeed_ne_zero (seed : UInt64) : (ofSeed seed).state ≠ 0 := by
  unfold ofSeed
  split
  · decide
  · assumption

/-- Two seeds make one stream just if they are equal or one is the replacement of the other. -/
theorem ofSeed_eq_ofSeed_iff {a b : UInt64} :
    ofSeed a = ofSeed b ↔ a = b ∨ (a = 0 ∧ b = 1) ∨ (a = 1 ∧ b = 0) := by
  unfold ofSeed
  by_cases ha : a = 0 <;> by_cases hb : b = 0 <;> grind

/-- Under one salt two seeds make one stream just if they are equal or one of them makes the zero
word and the other its replacement. -/
theorem salted_eq_salted_iff {a b salt : UInt64} : salted a salt = salted b salt ↔
    a = b ∨ (a = salt ∧ b = salt ^^^ 1) ∨ (a = salt ^^^ 1 ∧ b = salt) := by
  have hone : ∀ c, c ^^^ salt = 1 ↔ c = salt ^^^ 1 := by
    intro c
    rw [UInt64.xor_comm c, ← UInt64.xor_right_inj salt, ← UInt64.xor_assoc, UInt64.xor_self,
      UInt64.zero_xor]
  rw [salted, salted, ofSeed_eq_ofSeed_iff, UInt64.xor_left_inj, UInt64.xor_eq_zero_iff,
    UInt64.xor_eq_zero_iff, hone, hone]

/-- The salts of all kinds of elements. -/
def salts : List UInt64 := [controlPointSalt, hardpointSalt, interiorSalt, lightSalt]

/-- Under one seed the streams of two salts are different, because no two salts differ in the lowest
bit alone. -/
theorem salted_ne_salted {a b : UInt64} (ha : a ∈ salts) (hb : b ∈ salts) (hne : a ≠ b)
    (seed : UInt64) : salted seed a ≠ salted seed b := by
  have hbit : ∀ a ∈ salts, ∀ b ∈ salts, b ≠ a ^^^ 1 := by
    have hall : (salts.all fun a => salts.all fun b => b ≠ a ^^^ 1) = true := by decide
    simpa only [List.all_eq_true, decide_eq_true_eq] using hall
  have hswap : ∀ salt, salted seed salt = salted salt seed := fun salt =>
    congrArg ofSeed (UInt64.xor_comm seed salt)
  rw [hswap, hswap, ne_eq, salted_eq_salted_iff]
  rintro (rfl | ⟨rfl, rfl⟩ | ⟨rfl, rfl⟩)
  · exact hne rfl
  · exact hbit a ha _ hb rfl
  · exact hbit b hb _ ha rfl

/-- Whatever the seed, at each draw the words of the four kinds of elements are different from each
other and from zero. Whatever the salt, the words of two seeds agree at one draw just if they agree
at every draw, and just if the seeds are equal or are the salt and the salt with its lowest bit
turned over, whose streams both start from one. -/
theorem words_differ_unless_streams_agree :
    (∀ (seed : UInt64) (k : Nat), (salts.map fun salt => (salted seed salt).word k).Nodup ∧
      ∀ salt ∈ salts, (salted seed salt).word k ≠ 0) ∧
    ∀ salt a b : UInt64,
      ((∃ k, (salted a salt).word k = (salted b salt).word k) ↔
        ∀ k, (salted a salt).word k = (salted b salt).word k) ∧
      ((∀ k, (salted a salt).word k = (salted b salt).word k) ↔
        a = b ∨ (a = salt ∧ b = salt ^^^ 1) ∨ (a = salt ^^^ 1 ∧ b = salt)) ∧
      salted salt salt = ⟨1⟩ ∧ salted (salt ^^^ 1) salt = ⟨1⟩ := by
  refine ⟨fun seed k => ⟨?_, fun salt _ => word_ne_zero (state_ofSeed_ne_zero _) k⟩,
    fun salt a b => ⟨?_, ?_, ?_, ?_⟩⟩
  · have hsalts : salts.Nodup := by decide
    refine hsalts.map_on fun a ha b hb hword => ?_
    by_contra hne
    exact salted_ne_salted ha hb hne seed (word_eq_word_iff.mp hword)
  · simp only [word_eq_word_iff, exists_const, forall_const]
  · simp only [word_eq_word_iff, forall_const, salted_eq_salted_iff]
  · rw [salted, UInt64.xor_self]
    rfl
  · rw [salted, UInt64.xor_comm salt, UInt64.xor_assoc, UInt64.xor_self, UInt64.xor_zero]
    rfl

end XorShift

end Shipwright
