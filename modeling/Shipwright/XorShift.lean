import Shipwright.Scalar

/-!
# Reproducible random streams

A ship is rebuilt from its seed, so the bit sequence is part of the save format:
a 64-bit xorshift generator with shifts 13, 7 and 17. Each kind of element draws
from its own stream, separated from the others by a salt, so that a new rule for
one kind never shifts the values another kind draws.
-/

namespace Shipwright

/-- The state of a random stream. -/
structure XorShift where
  /-- The word from which the next value is made. -/
  state : UInt64
  deriving DecidableEq, Repr

namespace XorShift

/-- Salt of the control point stream. -/
def controlPointSalt : UInt64 := 0x5DEECE66D

/-- Salt of the hardpoint stream. -/
def hardpointSalt : UInt64 := 0xCAFEBABE

/-- Salt of the interior stream. -/
def interiorSalt : UInt64 := 0xDEADBEEF

/-- Salt of the light stream. -/
def lightSalt : UInt64 := 0xF00DCAFE

/-- A stream from a seed; the zero word, which the generator never leaves, is replaced by 1. -/
def ofSeed (seed : UInt64) : XorShift := ⟨if seed = 0 then 1 else seed⟩

/-- The stream of one salt under a master seed. -/
def salted (seed salt : UInt64) : XorShift := ofSeed (seed ^^^ salt)

/-- One round of the generator on a word: the three shifts, each folded in by exclusive or. -/
def advance (w : UInt64) : UInt64 :=
  let a := w ^^^ (w <<< 13)
  let b := a ^^^ (a >>> 7)
  b ^^^ (b <<< 17)

/-- The next raw word and the stream after it. -/
def next (s : XorShift) : UInt64 × XorShift :=
  let w := advance s.state
  (w, ⟨w⟩)

/-- A value between 0 and 1 in steps of 1/65535, from the low 16 bits of the next word. -/
def nextUnit {α : Type} [Scalar α] (s : XorShift) : α × XorShift :=
  let (w, s) := s.next
  (Scalar.ofCount (w &&& 0xFFFF).toNat / 65535.0, s)

/-- A value between two bounds. -/
def nextBetween {α : Type} [Scalar α] (low high : α) (s : XorShift) : α × XorShift :=
  let (u, s) : α × XorShift := s.nextUnit
  (low + u * (high - low), s)

/-- A list of drawn values: the draws are numbered from a start, and each one works on the
stream that the one before it left behind. -/
def draws {β : Type} (draw : Nat → XorShift → β × XorShift) :
    Nat → Nat → XorShift → List β × XorShift
  | _, 0, s => ([], s)
  | i, n + 1, s =>
    let (b, s) := draw i s
    let (bs, s) := draws draw (i + 1) n s
    (b :: bs, s)

@[simp] theorem length_draws {β : Type} (draw : Nat → XorShift → β × XorShift) (i n : Nat)
    (s : XorShift) : (draws draw i n s).1.length = n := by
  induction n generalizing i s with
  | zero => rfl
  | succ n ih => simp [draws, ih]

end XorShift

end Shipwright
