import Parley.Number.Basic
import Parley.Random.ChaCha

/-!
# The random generator

A generator is a place in the stream of a key. A whole number in a given range is drawn by
multiplying a 64-bit draw by the size of the range: the high half is the answer, and the draw is
repeated while the low half lies in the part that would favour some answers.
-/

namespace Parley

/-- A place in the stream of 64-bit draws of a key. -/
structure Generator where
  key : ChaCha.Key
  /-- How many draws have been made. -/
  drawn : Nat

namespace Generator

/-- The generator that a seed stands for, before its first draw. -/
def ofSeed (seed : UInt64) : Generator := ⟨ChaCha.expand seed, 0⟩

/-- The next draw. -/
def next (g : Generator) : UInt64 × Generator :=
  (ChaCha.draw g.key g.drawn, { g with drawn := g.drawn + 1 })

/-- How often a draw is repeated at most; half of the draws or more are accepted, so the limit is
never met in practice. -/
def maxRepeats : Nat := 4096

/-- Draw until the low half of the product with `size` is at most `zone`, or for the last time. -/
def nextBelow (size zone : Nat) : Nat → Generator → Nat × Generator
  | 0, g =>
    let (v, g) := g.next
    (v.toNat * size / pow2 64, g)
  | tries + 1, g =>
    let (v, g) := g.next
    if v.toNat * size % pow2 64 ≤ zone then (v.toNat * size / pow2 64, g)
    else nextBelow size zone tries g

/-- The largest low half that is accepted for a range of `size` numbers. -/
def zone (size : Nat) : Nat := size * pow2 (63 - size.log2) - 1

/-- A number from `lo` to `hi`, both included, of which there has to be one. A draw is made even
when they are equal. -/
def sample (lo hi : Int64) (_ : lo ≤ hi) (g : Generator) : Int64 × Generator :=
  let size := ((hi.toInt - lo.toInt + 1) % pow2 64).toNat
  if size = 0 then
    let (v, g) := g.next
    (v.toInt64, g)
  else
    let (n, g) := nextBelow size (zone size) maxRepeats g
    (.ofInt (lo.toInt + n), g)

/-- A number from 0 to 99. -/
def below100 (g : Generator) : Int64 × Generator := g.sample 0 99 (by decide)

/-- A draw that is scaled to a size stays below it. -/
theorem draw_lt (v : UInt64) {size : Nat} (h : 0 < size) : v.toNat * size / pow2 64 < size := by
  refine Nat.div_lt_of_lt_mul ?_
  rw [Nat.mul_comm (pow2 64) size, Nat.mul_comm]
  exact Nat.mul_lt_mul_of_pos_left v.toNat_lt h

/-- A draw below a size is below it, however often it is repeated. -/
theorem nextBelow_lt {size : Nat} (h : 0 < size) (zone tries : Nat) (g : Generator) :
    (nextBelow size zone tries g).1 < size := by
  induction tries generalizing g with
  | zero => exact draw_lt g.next.1 h
  | succ tries ih =>
    unfold nextBelow
    dsimp only
    split
    · exact draw_lt g.next.1 h
    · exact ih _

/-- A number drawn from a range lies in the range. -/
theorem sample_mem {lo hi : Int64} (h : lo ≤ hi) (g : Generator) :
    lo ≤ (g.sample lo hi h).1 ∧ (g.sample lo hi h).1 ≤ hi := by
  have ordered := Int64.le_iff_toInt_le.1 h
  have lowest := lo.minValue_le_toInt
  have highest := hi.toInt_le
  have all : pow2 64 = 18446744073709551616 := rfl
  rw [Int64.le_iff_toInt_le, Int64.le_iff_toInt_le]
  simp only [sample, all]
  generalize hs : ((hi.toInt - lo.toInt + 1) % _).toNat = size
  split
  · -- The size is a multiple of 2 ^ 64 only if the range is that of all numbers.
    rename_i empty
    have lower := g.next.1.toInt64.minValue_le_toInt
    have upper := g.next.1.toInt64.toInt_le
    simp only [Int64.toInt_minValue, Int64.toInt_maxValue] at lowest highest lower upper
    dsimp only
    omega
  · rename_i some
    have below := nextBelow_lt (Nat.pos_of_ne_zero some) (zone size) maxRepeats g
    simp only [Int64.toInt_minValue, Int64.toInt_maxValue] at lowest highest
    dsimp only at below ⊢
    rw [Int64.toInt_ofInt_of_le] <;> omega

end Generator

end Parley
