import Parley.Number.Basic

/-!
# Exact 32-bit arithmetic

Arithmetic that breaks off where the result is no 32-bit integer. Where it does not break off it
agrees with the arithmetic that wraps around.
-/

namespace Parley

/-- What breaks off an operation for good. -/
inductive Breach where
  /-- The result of an arithmetic operation is not representable. -/
  | overflow
  | zeroDivisor
  | noSuchResponse
deriving DecidableEq, Repr

namespace Exact

/-- An integer as a 32-bit one. -/
def fit (n : Int) : Except Breach Int32 :=
  match int32? n with
  | some a => .ok a
  | none => .error .overflow

/-- Sum. -/
def add (a b : Int32) : Except Breach Int32 := fit (a.toInt + b.toInt)

/-- Difference. -/
def sub (a b : Int32) : Except Breach Int32 := fit (a.toInt - b.toInt)

/-- Product. -/
def mul (a b : Int32) : Except Breach Int32 := fit (a.toInt * b.toInt)

/-- Quotient, rounded toward zero. -/
def div (a b : Int32) : Except Breach Int32 :=
  if b = 0 then .error .zeroDivisor else fit (a.toInt.tdiv b.toInt)

theorem fit_toInt (a : Int32) : fit a.toInt = .ok a := by
  unfold fit int32?
  rw [if_pos ⟨a.minValue_le_toInt, a.toInt_le⟩, Int32.ofInt_toInt]

/-- What fits is the integer itself. -/
theorem toInt_of_fit {n : Int} {a : Int32} (h : fit n = .ok a) : a.toInt = n := by
  unfold fit int32? at h
  split at h
  · rename_i b hb
    obtain rfl := Except.ok.inj h
    split at hb
    · rename_i range
      obtain ⟨hlo, hhi⟩ := range
      rw [Int32.toInt_minValue] at hlo
      rw [Int32.toInt_maxValue] at hhi
      obtain rfl := Option.some.inj hb
      exact Int32.toInt_ofInt_of_le hlo (by omega)
    · contradiction
  · contradiction

/-- An integer from the least to the greatest one of 32 bits fits. -/
theorem fit_eq {n : Int} (hlo : -2147483648 ≤ n) (hhi : n ≤ 2147483647) :
    fit n = .ok (.ofInt n) := by
  unfold fit int32?
  rw [if_pos ⟨hlo, hhi⟩]

variable {a b : Int32}

/-- A sum that fits is the sum that wraps around. -/
theorem add_eq (hlo : -2147483648 ≤ a.toInt + b.toInt) (hhi : a.toInt + b.toInt ≤ 2147483647) :
    add a b = .ok (a + b) := by
  rw [add, fit_eq hlo hhi, Int32.ofInt_add, Int32.ofInt_toInt, Int32.ofInt_toInt]

theorem sub_eq (hlo : -2147483648 ≤ a.toInt - b.toInt) (hhi : a.toInt - b.toInt ≤ 2147483647) :
    sub a b = .ok (a - b) := by
  rw [sub, fit_eq hlo hhi, Int32.ofInt_sub, Int32.ofInt_toInt, Int32.ofInt_toInt]

theorem mul_eq (hlo : -2147483648 ≤ a.toInt * b.toInt) (hhi : a.toInt * b.toInt ≤ 2147483647) :
    mul a b = .ok (a * b) := by
  rw [mul, fit_eq hlo hhi, Int32.ofInt_mul, Int32.ofInt_toInt, Int32.ofInt_toInt]

/-- The only quotient that is not representable is that of the least integer by minus one. -/
theorem div_eq (hb : b ≠ 0) (h : a ≠ Int32.minValue ∨ b ≠ -1) : div a b = .ok (a / b) := by
  have same : (a / b).toInt = a.toInt.tdiv b.toInt := by
    rcases h with h | h
    · exact Int32.toInt_div_of_ne_left a b h
    · exact Int32.toInt_div_of_ne_right a b h
  rw [div, if_neg hb, ← same, fit_toInt]

/-- The one quotient that does not fit. -/
theorem div_minValue : div Int32.minValue (-1) = .error .overflow := rfl

end Exact

end Parley
