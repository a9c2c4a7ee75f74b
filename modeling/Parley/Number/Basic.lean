/-!
# Integers of a fixed size

Ranges and places are given by powers of two and of ten. Counters, coordinates and money are 32- or
64-bit signed integers whose arithmetic stops at the ends of the range. Each operation here is the
exact integer operation followed by one clamp, so `toInt_clamp32` and `toInt_clamp64` are all that
is needed to reason about it.
-/

namespace Parley

/-- A power of two. -/
def pow2 (n : Nat) : Nat := Nat.pow 2 n

/-- A power of ten. -/
def pow10 (n : Nat) : Nat := Nat.pow 10 n

/-- The 32-bit integer nearest to `n`. -/
def clamp32 (n : Int) : Int32 := .ofIntClamp n

/-- The 64-bit integer nearest to `n`. -/
def clamp64 (n : Int) : Int64 := .ofIntClamp n

/-- The nearest 32-bit integer is the number itself, or the end of the range on its side. -/
theorem toInt_clamp32 (n : Int) : (clamp32 n).toInt =
    max Int32.minValue.toInt (min Int32.maxValue.toInt n) := by
  unfold clamp32 Int32.ofIntClamp
  split
  · split
    · rename_i h₁ h₂
      rw [Int32.toInt_ofIntLE]
      simp only [Int32.toInt_minValue, Int32.toInt_maxValue] at h₁ h₂ ⊢
      omega
    · rename_i h₁ h₂
      simp only [Int32.toInt_minValue, Int32.toInt_maxValue] at h₁ h₂ ⊢
      omega
  · rename_i h₁
    simp only [Int32.toInt_minValue, Int32.toInt_maxValue] at h₁ ⊢
    omega

/-- The nearest 64-bit integer is the number itself, or the end of the range on its side. -/
theorem toInt_clamp64 (n : Int) : (clamp64 n).toInt =
    max Int64.minValue.toInt (min Int64.maxValue.toInt n) := by
  unfold clamp64 Int64.ofIntClamp
  split
  · split
    · rename_i h₁ h₂
      rw [Int64.toInt_ofIntLE]
      simp only [Int64.toInt_minValue, Int64.toInt_maxValue] at h₁ h₂ ⊢
      omega
    · rename_i h₁ h₂
      simp only [Int64.toInt_minValue, Int64.toInt_maxValue] at h₁ h₂ ⊢
      omega
  · rename_i h₁
    simp only [Int64.toInt_minValue, Int64.toInt_maxValue] at h₁ ⊢
    omega

/-- A 64-bit integer is nearest to itself. -/
theorem clamp64_toInt (a : Int64) : clamp64 a.toInt = a := by
  have lower := a.minValue_le_toInt
  have upper := a.toInt_le
  rw [← Int64.toInt_inj, toInt_clamp64]
  omega

/-- Sum, stopping at the ends of the range. -/
def add32 (a b : Int32) : Int32 := clamp32 (a.toInt + b.toInt)

/-- Difference, stopping at the ends of the range. -/
def sub32 (a b : Int32) : Int32 := clamp32 (a.toInt - b.toInt)

/-- Product, stopping at the ends of the range. -/
def mul32 (a b : Int32) : Int32 := clamp32 (a.toInt * b.toInt)

/-- Saturating sums grow with what is added. -/
theorem add32_mono {a b c d : Int32} (h : a.toInt ≤ b.toInt) (h' : c.toInt ≤ d.toInt) :
    (add32 a c).toInt ≤ (add32 b d).toInt := by
  rw [add32, add32, toInt_clamp32, toInt_clamp32]
  omega

/-- A product grows with a factor if the other one is not negative. -/
theorem mul32_mono {a b c : Int32} (h : a.toInt ≤ b.toInt) (nonneg : 0 ≤ c.toInt) :
    (mul32 a c).toInt ≤ (mul32 b c).toInt := by
  have exact := Int.mul_le_mul_of_nonneg_right h nonneg
  rw [mul32, mul32, toInt_clamp32, toInt_clamp32]
  omega

/-- A product that stops at an end of the range has the sign of the exact product. -/
theorem mul32_nonneg {a b : Int32} (h : 0 ≤ a.toInt * b.toInt) : 0 ≤ (mul32 a b).toInt := by
  rw [mul32, toInt_clamp32, Int32.toInt_maxValue]
  omega

theorem mul32_nonpos {a b : Int32} (h : a.toInt * b.toInt ≤ 0) : (mul32 a b).toInt ≤ 0 := by
  rw [mul32, toInt_clamp32, Int32.toInt_minValue]
  omega

/-- Absolute value; that of the least integer is the greatest one. -/
def abs32 (a : Int32) : Int32 := clamp32 a.toInt.natAbs

theorem abs32_nonneg (a : Int32) : 0 ≤ abs32 a := by
  rw [Int32.le_iff_toInt_le, abs32, toInt_clamp32, Int32.toInt_zero, Int32.toInt_maxValue]
  omega

/-- The value nearest to `a` among those from `lo` to `hi`, of which there has to be one. -/
def within32 (lo hi a : Int32) (_ : lo ≤ hi) : Int32 := max lo (min hi a)

theorem toInt_min32 (a b : Int32) : (min a b).toInt = min a.toInt b.toInt := by
  change (if a ≤ b then a else b).toInt = _
  split <;> (simp only [Int32.le_iff_toInt_le] at *; omega)

theorem toInt_max32 (a b : Int32) : (max a b).toInt = max a.toInt b.toInt := by
  change (if a ≤ b then b else a).toInt = _
  split <;> (simp only [Int32.le_iff_toInt_le] at *; omega)

theorem toInt_within32 {lo hi a : Int32} (h : lo ≤ hi) :
    (within32 lo hi a h).toInt = max lo.toInt (min hi.toInt a.toInt) := by
  rw [within32, toInt_max32, toInt_min32]

/-- The nearest value in a range lies in the range. -/
theorem within32_mem {lo hi a : Int32} (h : lo ≤ hi) :
    lo.toInt ≤ (within32 lo hi a h).toInt ∧ (within32 lo hi a h).toInt ≤ hi.toInt := by
  rw [Int32.le_iff_toInt_le] at h
  rw [toInt_within32]
  omega

theorem toInt_neg32 {cap : Int32} (h : 0 ≤ cap) : (-cap).toInt = -cap.toInt := by
  have hlo : 0 ≤ cap.toInt := by simpa using Int32.le_iff_toInt_le.1 h
  have hhi := cap.toInt_lt
  rw [Int32.toInt_neg]
  exact Int.bmod_eq_of_le (by omega) (by omega)

theorem neg32_le_self {cap : Int32} (h : 0 ≤ cap) : -cap ≤ cap := by
  have hlo : 0 ≤ cap.toInt := by simpa using Int32.le_iff_toInt_le.1 h
  rw [Int32.le_iff_toInt_le, toInt_neg32 h]
  omega

/-- The value nearest to `a` among those that are at most `cap` away from zero. -/
def capped32 (cap a : Int32) (h : 0 ≤ cap) : Int32 := within32 (-cap) cap a (neg32_le_self h)

/-- The percentage nearest to `a`. -/
def percent32 (a : Int32) : Int32 := within32 0 100 a (by decide)

theorem toInt_percent32 (a : Int32) : (percent32 a).toInt = max 0 (min 100 a.toInt) :=
  toInt_within32 (by decide)

/-- Percentages grow with the number. -/
theorem percent32_mono {a b : Int32} (h : a.toInt ≤ b.toInt) :
    (percent32 a).toInt ≤ (percent32 b).toInt := by
  rw [toInt_percent32, toInt_percent32]
  omega

theorem percent32_of_le {a : Int32} (h : a.toInt ≤ 0) : percent32 a = 0 := by
  rw [← Int32.toInt_inj, toInt_percent32, Int32.toInt_zero]
  omega

theorem percent32_of_ge {a : Int32} (h : 100 ≤ a.toInt) : percent32 a = 100 := by
  rw [← Int32.toInt_inj, toInt_percent32, show (100 : Int32).toInt = 100 from rfl]
  omega

/-- Sum, stopping at the ends of the range. -/
def add64 (a b : Int64) : Int64 := clamp64 (a.toInt + b.toInt)

/-- Difference, stopping at the ends of the range. -/
def sub64 (a b : Int64) : Int64 := clamp64 (a.toInt - b.toInt)

/-- Product, stopping at the ends of the range. -/
def mul64 (a b : Int64) : Int64 := clamp64 (a.toInt * b.toInt)

/-- Negation; that of the least integer is the greatest one. -/
def neg64 (a : Int64) : Int64 := clamp64 (-a.toInt)

/-- Absolute value; that of the least integer is the greatest one. -/
def abs64 (a : Int64) : Int64 := clamp64 a.toInt.natAbs

theorem toInt_min64 (a b : Int64) : (min a b).toInt = min a.toInt b.toInt := by
  change (if a ≤ b then a else b).toInt = _
  split <;> (simp only [Int64.le_iff_toInt_le] at *; omega)

theorem toInt_max64 (a b : Int64) : (max a b).toInt = max a.toInt b.toInt := by
  change (if a ≤ b then b else a).toInt = _
  split <;> (simp only [Int64.le_iff_toInt_le] at *; omega)

/-- The lesser of two integers is at most the greater one. -/
theorem min64_le_max64 (a b : Int64) : min a b ≤ max a b := by
  rw [Int64.le_iff_toInt_le, toInt_min64, toInt_max64]
  omega

/-- `n` as a 32-bit integer, if it is one. -/
def int32? (n : Int) : Option Int32 :=
  if Int32.minValue.toInt ≤ n ∧ n ≤ Int32.maxValue.toInt then some (.ofInt n) else none

/-- `n` as a 64-bit integer, if it is one. -/
def int64? (n : Int) : Option Int64 :=
  if Int64.minValue.toInt ≤ n ∧ n ≤ Int64.maxValue.toInt then some (.ofInt n) else none

/-- A 64-bit integer brought into the 32-bit range. -/
def narrow (a : Int64) : Int32 := clamp32 a.toInt

end Parley
