import Parley.Actor.Values

/-!
# Distances

How far two places are apart is counted in steps that may go along all three axes at once. Sums and
differences stop at the ends of the 32-bit range, and a distance too: it is the exact one, or the
greatest integer where the exact one is greater. That is enough to keep the laws of a metric, also
between places at the ends of the range.
-/

namespace Parley.Position

/-- How far two coordinates are apart in exact arithmetic. -/
def exactGap (a b : Int32) : Nat := (a.toInt - b.toInt).natAbs

section

variable (a b c : Int32)

theorem exactGap_comm : exactGap a b = exactGap b a := by
  unfold exactGap
  omega

theorem exactGap_eq_zero_iff : exactGap a b = 0 ↔ a = b := by
  rw [← Int32.toInt_inj]
  unfold exactGap
  omega

/-- No detour along an axis is shorter than the direct way. -/
theorem exactGap_triangle : exactGap a c ≤ exactGap a b + exactGap b c := by
  unfold exactGap
  omega

/-- A coordinate that stops at an end of the range has not moved further than it was to move. -/
theorem exactGap_add32_le : exactGap a (add32 a b) ≤ b.toInt.natAbs := by
  have lower := a.minValue_le_toInt
  have upper := a.toInt_le
  rw [exactGap, add32, toInt_clamp32]
  omega

/-- A difference that stops at the lower end of the range has the greatest integer as its absolute
value, as one that stops at the upper end has. -/
theorem toInt_gap : (gap a b).toInt = min Int32.maxValue.toInt (exactGap a b) := by
  rw [gap, abs32, sub32, exactGap, toInt_clamp32, toInt_clamp32, Int32.toInt_maxValue,
    Int32.toInt_minValue]
  omega

end

/-- How far two places are apart in exact arithmetic. -/
def exactDistance (p q : Position) : Nat :=
  max (max (exactGap p.x q.x) (exactGap p.y q.y)) (exactGap p.z q.z)

section

variable (p q r d : Position)

theorem exactDistance_comm : exactDistance p q = exactDistance q p := by
  unfold exactDistance
  rw [exactGap_comm p.x, exactGap_comm p.y, exactGap_comm p.z]

/-- Nothing but a place itself is at no distance from it. -/
theorem exactDistance_eq_zero_iff : exactDistance p q = 0 ↔ p = q := by
  cases p with | mk x y z
  cases q with | mk x' y' z'
  rw [Position.mk.injEq, ← exactGap_eq_zero_iff x, ← exactGap_eq_zero_iff y,
    ← exactGap_eq_zero_iff z]
  simp only [exactDistance]
  omega

/-- No detour between places is shorter than the direct way. -/
theorem exactDistance_triangle : exactDistance p r ≤ exactDistance p q + exactDistance q r := by
  have alongX := exactGap_triangle p.x q.x r.x
  have alongY := exactGap_triangle p.y q.y r.y
  have alongZ := exactGap_triangle p.z q.z r.z
  unfold exactDistance
  omega

theorem exactDistance_offset_le :
    exactDistance p (p.offset d) ≤
      max (max d.x.toInt.natAbs d.y.toInt.natAbs) d.z.toInt.natAbs := by
  have alongX := exactGap_add32_le p.x d.x
  have alongY := exactGap_add32_le p.y d.y
  have alongZ := exactGap_add32_le p.z d.z
  simp only [exactDistance, offset]
  omega

/-- A distance is the exact one, or the greatest integer. -/
theorem toInt_distance : (distance p q).toInt = min Int32.maxValue.toInt (exactDistance p q) := by
  rw [distance, exactDistance, toInt_max32, toInt_max32, toInt_gap, toInt_gap, toInt_gap]
  omega

theorem distance_comm : distance p q = distance q p := by
  rw [← Int32.toInt_inj, toInt_distance, toInt_distance, exactDistance_comm]

theorem distance_eq_zero_iff : distance p q = 0 ↔ p = q := by
  rw [← exactDistance_eq_zero_iff, ← Int32.toInt_inj, toInt_distance, Int32.toInt_maxValue,
    Int32.toInt_zero]
  omega

theorem distance_triangle :
    (distance p r).toInt ≤ (distance p q).toInt + (distance q r).toInt := by
  have exact := exactDistance_triangle p q r
  rw [toInt_distance, toInt_distance, toInt_distance, Int32.toInt_maxValue]
  omega

theorem distance_offset_le :
    (distance p (p.offset d)).toInt ≤
      max (max d.x.toInt.natAbs d.y.toInt.natAbs) d.z.toInt.natAbs := by
  calc (distance p (p.offset d)).toInt
    _ = min Int32.maxValue.toInt (exactDistance p (p.offset d)) := toInt_distance ..
    _ ≤ exactDistance p (p.offset d) := Int.min_le_right ..
    _ ≤ _ := Int.ofNat_le.2 (exactDistance_offset_le p d)

/-- Distances obey the laws of a metric wherever the places are: a distance is the exact one, or the
greatest integer, it is the same from either end, it is 0 only from a place to itself, and no way
around is shorter. A place that is offset along each axis is at most the greatest of the three
offsets away. -/
theorem distance_metric :
    (distance p q).toInt = min Int32.maxValue.toInt (exactDistance p q) ∧
    distance p q = distance q p ∧
    (distance p q = 0 ↔ p = q) ∧
    (distance p r).toInt ≤ (distance p q).toInt + (distance q r).toInt ∧
    (distance p (p.offset d)).toInt ≤
      max (max d.x.toInt.natAbs d.y.toInt.natAbs) d.z.toInt.natAbs :=
  ⟨toInt_distance p q, distance_comm p q, distance_eq_zero_iff p q, distance_triangle p q r,
    distance_offset_le p d⟩

end

/-- The ends of an axis are further apart than a distance can say. -/
example :
    let west : Position := ⟨Int32.minValue, 0, 0⟩
    let east : Position := ⟨Int32.maxValue, 0, 0⟩
    west.distance east = Int32.maxValue ∧ west.exactDistance east = 4294967295 := by decide

end Parley.Position
