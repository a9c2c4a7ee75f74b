import Parley.Effect.Execution

/-!
# Integers written and read back

A variable holds an integer as its decimal form. That form, read as a reference to the variable
reads it, is the integer again, at both ends of the range too.
-/

namespace Parley

namespace Text

/-- A decimal digit is read as its distance from `'0'`. -/
theorem digit?_of_isDigit {c : Char} (h : c.isDigit = true) :
    digit? c = some (c.toNat - '0'.toNat) := by
  rw [Char.isDigit, Bool.and_eq_true, decide_eq_true_eq, decide_eq_true_eq] at h
  exact if_pos h

/-- Digits write the number that is made from them one after the other. -/
theorem digitsFrom_of_isDigit {s : List Char} (digits : ∀ c ∈ s, c.isDigit = true) (acc : Nat) :
    digitsFrom acc s = some (Nat.ofDigitChars 10 s acc) := by
  induction s generalizing acc with
  | nil => rfl
  | cons c rest ih =>
    rw [List.forall_mem_cons] at digits
    rw [digitsFrom, digit?_of_isDigit digits.1, Nat.ofDigitChars_cons]
    exact ih digits.2 _

theorem isDigit_of_mem_toDigits {n : Nat} {c : Char} (mem : c ∈ Nat.toDigits 10 n) :
    c.isDigit = true := Nat.isDigit_of_mem_toDigits (by decide) (by decide) mem

/-- The decimal digits of a natural number are read as that number. -/
theorem natural?_toDigits (n : Nat) : natural? (Nat.toDigits 10 n) = some n := by
  have read := digitsFrom_of_isDigit (fun c => isDigit_of_mem_toDigits (n := n) (c := c)) 0
  rw [Nat.ofDigitChars_ten_toDigits] at read
  cases h : Nat.toDigits 10 n with
  | nil => exact absurd h Nat.toDigits_ne_nil
  | cons c rest =>
    rw [h] at read
    exact read

/-- The decimal form of an integer begins with its sign if it is negative. -/
theorem toList_toString (n : Int) : (toString n).toList =
    if n < 0 then '-' :: Nat.toDigits 10 n.natAbs else Nat.toDigits 10 n.natAbs := by
  cases n with
  | ofNat n =>
    rw [if_neg (by simp)]
    exact Nat.toList_repr
  | negSucc n =>
    rw [if_pos (Int.negSucc_lt_zero n)]
    change ("-" ++ (n + 1).repr).toList = _
    rw [String.toList_append, Nat.toList_repr]
    rfl

/-- What is written for an integer is read as that integer. -/
theorem integer?_toString (n : Int) : integer? (toString n).toList = some n := by
  rw [toList_toString]
  split
  · rename_i negative
    have negated : integer? ('-' :: Nat.toDigits 10 n.natAbs) = some (-(n.natAbs : Int)) := by
      rw [integer?, natural?_toDigits]
      rfl
    rw [negated]
    congr 1
    omega
  · rename_i nonneg
    -- No digit is taken for a sign.
    have unsigned : integer? (Nat.toDigits 10 n.natAbs) = some (n.natAbs : Int) := by
      have read := natural?_toDigits n.natAbs
      cases h : Nat.toDigits 10 n.natAbs with
      | nil => exact absurd h Nat.toDigits_ne_nil
      | cons c rest =>
        have digit : c.isDigit = true := isDigit_of_mem_toDigits (h ▸ List.mem_cons_self)
        have minus : c ≠ '-' := by
          rintro rfl
          contradiction
        have plus : c ≠ '+' := by
          rintro rfl
          contradiction
        rw [h] at read
        rw [integer?, unsigned?, read]
        · rfl
        · simpa using plus
        · simpa using minus
    rw [unsigned]
    congr 1
    omega

theorem trim_of_not_isBlank {s : List Char} (h : ∀ c ∈ s, isBlank c = false) : trim s = s := by
  have kept {s : List Char} (h : ∀ c ∈ s, isBlank c = false) : s.dropWhile isBlank = s := by
    cases s with
    | nil => rfl
    | cons c rest => rw [List.dropWhile_cons_of_neg (by simp [h c (.head _)])]
  rw [trim, kept h, kept fun c mem => h c (List.mem_reverse.1 mem), List.reverse_reverse]

theorem isBlank_of_isDigit {c : Char} (h : c.isDigit = true) : isBlank c = false := by
  have range : 48 ≤ c.toNat ∧ c.toNat ≤ 57 := by
    simpa [Char.isDigit, UInt32.le_iff_toNat_le] using h
  simp only [isBlank, Bool.or_eq_false_iff, Bool.and_eq_false_iff, decide_eq_false_iff_not]
  omega

theorem trim_toString (n : Int) : trim (toString n).toList = (toString n).toList := by
  refine trim_of_not_isBlank fun c mem => ?_
  rw [toList_toString] at mem
  split at mem
  · rcases List.mem_cons.1 mem with rfl | mem
    · rfl
    · exact isBlank_of_isDigit (isDigit_of_mem_toDigits mem)
  · exact isBlank_of_isDigit (isDigit_of_mem_toDigits mem)

end Text

theorem int64?_toInt (n : Int64) : int64? n.toInt = some n := by
  rw [int64?, if_pos ⟨n.minValue_le_toInt, n.toInt_le⟩, Int64.ofInt_toInt]

/-- The decimal form of an integer stands for the integer. -/
theorem Variable.decode_toString (var : Variable) (expected : Expected) (n : Int64) :
    var.decode expected (toString n.toInt) = .ok n := by
  rw [decode, Text.trim_toString, Text.integer?_toString, Option.bind_some, int64?_toInt]

theorem toString_ne_empty (n : Int) : toString n ≠ "" := by
  intro h
  have empty : (toString n).toList = [] := by rw [h]; rfl
  rw [Text.toList_toString] at empty
  split at empty
  · contradiction
  · exact Nat.toDigits_ne_nil empty

end Parley
