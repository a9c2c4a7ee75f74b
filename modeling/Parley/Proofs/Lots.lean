import Parley.Proofs.WellFormed

/-!
# Lots

What an inventory holds, seen without the nesting: one lot for each stack with something in it, in
pre-order. Taking items walks over the tree, empties stacks, keeps those with contents and drops
the others, and stops early; seen in lots it takes the items from the front of the list. How many
items of a type there are, as an exact number, is then a matter of lists.
-/

namespace Parley

/-- A number of items of one type in one place. -/
structure Lot where
  type : String
  category : String
  size : Nat
deriving DecidableEq

namespace Lot

/-- The lots with something in them. -/
def filled (lots : List Lot) : List Lot := lots.filter (0 < ·.size)

/-- The number of items of a type in a list of lots. -/
def units (type : String) : List Lot → Nat
  | [] => 0
  | lot :: lots => (if lot.type = type then lot.size else 0) + units type lots

/-- Take up to `n` items of a type from a list of lots, front to back. -/
def draw (type : String) : Nat → List Lot → List Lot
  | 0, lots => lots
  | _ + 1, [] => []
  | n + 1, lot :: lots =>
    if lot.type = type then
      if lot.size ≤ n + 1 then draw type (n + 1 - lot.size) lots
      else { lot with size := lot.size - (n + 1) } :: lots
    else lot :: draw type (n + 1) lots

/-- How many of up to `n` wanted items of a type a lot gives. -/
def given (type : String) (n : Nat) (lot : Lot) : Nat :=
  if lot.type = type then min n lot.size else 0

variable {type type' : String} {n : Nat} {lot : Lot} {lots : List Lot}

/-! ### Counting -/

@[simp] theorem filled_nil : filled [] = [] := rfl

@[simp] theorem filled_append (lots lots' : List Lot) :
    filled (lots ++ lots') = filled lots ++ filled lots' := List.filter_append ..

theorem filled_singleton_of_pos (some : 0 < lot.size) : filled [lot] = [lot] := by
  simp [filled, some]

theorem filled_singleton_of_zero (none : lot.size = 0) : filled [lot] = [] := by
  simp [filled, none]

@[simp] theorem units_nil (type : String) : units type [] = 0 := rfl

theorem units_cons (type : String) (lot : Lot) (lots : List Lot) :
    units type (lot :: lots) = (if lot.type = type then lot.size else 0) + units type lots := rfl

@[simp] theorem units_append (type : String) (lots lots' : List Lot) :
    units type (lots ++ lots') = units type lots + units type lots' := by
  induction lots with
  | nil => simp
  | cons lot lots ih => simp [units_cons, ih, Nat.add_assoc]

theorem units_cons_eq_add (type : String) (lot : Lot) (lots : List Lot) :
    units type (lot :: lots) = units type [lot] + units type lots := units_append type [lot] lots

@[simp] theorem units_filled (type : String) (lots : List Lot) :
    units type (filled lots) = units type lots := by
  induction lots with
  | nil => rfl
  | cons lot lots ih =>
    rw [← List.singleton_append, filled_append, units_append, units_append, ih]
    rcases Nat.eq_zero_or_pos lot.size with none | some
    · simp [filled_singleton_of_zero none, units_cons, none]
    · rw [filled_singleton_of_pos some]

/-- There are units of a type where a lot of that type is not used up. -/
theorem units_pos_iff : 0 < units type lots ↔ ∃ lot ∈ lots, lot.type = type ∧ 0 < lot.size := by
  induction lots with
  | nil => simp
  | cons lot lots ih =>
    rw [units_cons, Nat.add_pos_iff_pos_or_pos, ih]
    split <;> simp [*]

/-! ### Drawing -/

@[simp] theorem draw_zero (type : String) (lots : List Lot) : draw type 0 lots = lots := by
  rw [draw]

@[simp] theorem draw_nil (type : String) (n : Nat) : draw type n [] = [] := by
  cases n <;> rw [draw]

theorem draw_cons_of_ne (other : lot.type ≠ type) :
    draw type n (lot :: lots) = lot :: draw type n lots := by
  cases n with
  | zero => simp
  | succ n => rw [draw, if_neg other]

/-- A lot that does not suffice is drawn as a whole. -/
theorem draw_cons_of_le (same : lot.type = type) (some : 0 < lot.size) (all : lot.size ≤ n) :
    draw type n (lot :: lots) = draw type (n - lot.size) lots := by
  cases n with
  | zero => omega
  | succ n => rw [draw, if_pos same, if_pos all]

/-- A lot that suffices is drawn from, and the drawing ends. -/
theorem draw_cons_of_lt (same : lot.type = type) (less : n < lot.size) :
    draw type n (lot :: lots) = { lot with size := lot.size - n } :: lots := by
  cases n with
  | zero => simp
  | succ n => rw [draw, if_pos same, if_neg (Nat.not_le.2 less)]

/-- The first lot gives what it has to give, and is left out if that was everything. -/
theorem draw_filled_cons (type : String) (n : Nat) (lot : Lot) (lots : List Lot) :
    draw type n (filled [lot] ++ lots) =
      filled [{ lot with size := lot.size - lot.given type n }] ++
        draw type (n - lot.given type n) lots := by
  rcases Nat.eq_zero_or_pos lot.size with none | some
  · have nothing : lot.given type n = 0 := by simp [given, none]
    simp [nothing, filled_singleton_of_zero none]
  rw [filled_singleton_of_pos some, List.singleton_append]
  by_cases same : lot.type = type
  · have most : lot.given type n = min n lot.size := if_pos same
    rcases Nat.lt_or_ge n lot.size with less | all
    · rw [most, Nat.min_eq_left (Nat.le_of_lt less), draw_cons_of_lt same less,
        Nat.sub_self, draw_zero,
        filled_singleton_of_pos (Nat.sub_pos_of_lt less), List.singleton_append]
    · rw [most, Nat.min_eq_right all, draw_cons_of_le same some all,
        filled_singleton_of_zero (Nat.sub_self _), List.nil_append]
  · have nothing : lot.given type n = 0 := if_neg same
    rw [nothing, draw_cons_of_ne same]
    exact congrArg (· ++ _) (filled_singleton_of_pos some).symm

/-- What is drawn is missing afterwards, as far as there was enough. -/
theorem units_draw_self (type : String) (n : Nat) (lots : List Lot) :
    units type (draw type n lots) = units type lots - n := by
  fun_induction draw type n lots with
  | case1 => rfl
  | case2 => simp
  | case3 n lot lots same all ih =>
    rw [ih, units_cons, if_pos same]
    omega
  | case4 n lot lots same less =>
    simp only [units_cons, if_pos same]
    omega
  | case5 n lot lots other ih => simp [units_cons, other, ih]

/-- Drawing leaves the other types alone. -/
theorem units_draw_of_ne (other : type' ≠ type) (n : Nat) (lots : List Lot) :
    units type' (draw type n lots) = units type' lots := by
  fun_induction draw type n lots with
  | case1 => rfl
  | case2 => rfl
  | case3 n lot lots same all ih =>
    rw [ih, units_cons, same, if_neg other.symm, Nat.zero_add]
  | case4 n lot lots same less => simp [units_cons, same, other.symm]
  | case5 n lot lots _ ih => rw [units_cons, units_cons, ih]

end Lot

namespace Item

/-! ### What an inventory holds -/

/-- The lot that a stack is, leaving its contents aside; a stack that owes items has none. -/
def lot (item : Item) : Lot := ⟨item.type, item.category, item.count.toInt.toNat⟩

/-- What an inventory holds, in pre-order. -/
def lots (items : List Item) : List Lot := Lot.filled ((flattenAll items).map lot)

/-- The number of items of a type in an inventory, at any depth. -/
def units (type : String) (items : List Item) : Nat := Lot.units type (lots items)

@[simp] theorem lots_nil : lots [] = [] := rfl

/-- A stack comes before its contents, and both before the stacks that follow. -/
theorem lots_cons (item : Item) (items : List Item) :
    lots (item :: items) = Lot.filled [item.lot] ++ (lots item.contents ++ lots items) := by
  rw [lots, flattenAll_cons, List.map_cons, List.map_append, ← List.singleton_append,
    Lot.filled_append, Lot.filled_append]
  rfl

/-- The lot of an item comes before those of its contents, unless it is used up. -/
theorem lots_singleton (item : Item) :
    lots [item] = Lot.filled [item.lot] ++ lots item.contents := by
  rw [lots_cons, lots_nil, List.append_nil]

@[simp] theorem lots_append (items items' : List Item) :
    lots (items ++ items') = lots items ++ lots items' := by
  induction items with
  | nil => rfl
  | cons item items ih => simp [lots_cons, ih]

@[simp] theorem units_append (type : String) (items items' : List Item) :
    units type (items ++ items') = units type items + units type items' := by
  simp [units]

theorem units_plain (type type' category : String) (count : Int32) :
    units type [plain type' category count] = if type' = type then count.toInt.toNat else 0 := by
  rw [units, lots_cons, Lot.units_append, Lot.units_filled, Lot.units_cons]
  rfl

/-- Stacks that are dropped hold nothing. -/
@[simp] theorem lots_filter_isKept (items : List Item) :
    lots (items.filter isKept) = lots items := by
  induction items with
  | nil => rfl
  | cons item items ih =>
    by_cases kept : item.isKept
    · rw [List.filter_cons_of_pos kept, lots_cons, lots_cons, ih]
    · rw [List.filter_cons_of_neg kept, ih, lots_cons]
      rw [isKept_iff, not_or, Decidable.not_not, Int32.lt_iff_toInt_lt, Int32.toInt_zero] at kept
      obtain ⟨none, bare⟩ := kept
      have empty : item.lot.size = 0 := Int.toNat_of_nonpos (Int.not_lt.1 none)
      rw [bare, Lot.filled_singleton_of_zero empty]
      rfl

/-! ### Saturating counts -/

/-- A count that has come to `sum` so far, after one more stack without its contents. -/
def countOne (type : String) (sum : Int32) (item : Item) : Int32 :=
  if item.type = type then add32 sum item.count else sum

/-- A count is taken over all stacks in pre-order. -/
theorem countType_eq_foldl (type : String) (items : List Item) :
    countType type items = (flattenAll items).foldl (countOne type) 0 := by
  simp only [countType, total, decide_eq_true_eq]
  rfl

/-- How many items of a type a stack owes, leaving its contents aside. -/
def debt (type : String) (item : Item) : Nat :=
  if item.type = type then (-item.count.toInt).toNat else 0

/-- One more stack adds what it holds to a count and takes away what it owes, within the range. -/
theorem toInt_countOne (type : String) (sum : Int32) (item : Item) :
    (countOne type sum item).toInt = max Int32.minValue.toInt (min Int32.maxValue.toInt
      (sum.toInt + Lot.units type [item.lot] - debt type item)) := by
  have size : item.lot.size = item.count.toInt.toNat := rfl
  have least := sum.le_toInt
  have most := sum.toInt_le
  rw [countOne, debt, Lot.units_cons, Lot.units_nil, Nat.add_zero, size]
  by_cases same : item.type = type
  · have lot_same : item.lot.type = type := same
    rw [if_pos same, if_pos same, if_pos lot_same, add32, toInt_clamp32]
    congr 2
    omega
  · have lot_other : ¬item.lot.type = type := same
    rw [if_neg same, if_neg same, if_neg lot_other, Int32.toInt_minValue, Int32.toInt_maxValue]
    rw [Int32.toInt_maxValue] at most
    omega

/-- A count that has come to `sum` so far goes up by no more than the items that are left. -/
theorem count_fold_le (type : String) (items : List Item) (sum : Int32) (n : Nat)
    (h : sum.toInt ≤ n) :
    (items.foldl (countOne type) sum).toInt ≤ n + Lot.units type (items.map lot) := by
  induction items generalizing sum n with
  | nil => simpa using h
  | cons item items ih =>
    have next := toInt_countOne type sum item
    rw [Int32.toInt_minValue, Int32.toInt_maxValue] at next
    rw [List.foldl_cons, List.map_cons, Lot.units_cons_eq_add, ← Int.natCast_add,
      ← Nat.add_assoc]
    exact ih _ _ (by omega)

/-- Stacks with nothing in them do not matter to the number of items. -/
theorem units_eq_flattenAll (type : String) (items : List Item) :
    units type items = Lot.units type ((flattenAll items).map lot) :=
  Lot.units_filled type _

/-- What is counted is there: debts, and the limit of the count, only make it less. -/
theorem countType_le_units (type : String) (items : List Item) :
    (countType type items).toInt ≤ units type items := by
  have bound := count_fold_le type (flattenAll items) 0 0 (by simp)
  rw [countType_eq_foldl, units_eq_flattenAll]
  simpa using bound

/-! ### Taking -/

mutual

/-- Taking from a stack draws from what it and its contents hold, and then goes on with what is
still wanted. -/
theorem draw_lots_take (type : String) (n : Nat) (item : Item) (after : List Lot) :
    Lot.draw type n (lots [item] ++ after) =
      lots [(take type n item).1] ++ Lot.draw type (take type n item).2 after := by
  match item with
  | ⟨type', category, count, contents⟩ =>
    have inner := draw_lots_takeAll type (n - given type n type' count) contents after
    have less : (left count (given type n type' count) (given_le_count ..)).toInt.toNat =
        count.toInt.toNat - given type n type' count := by
      rw [toInt_left]
      omega
    rw [take, lots_singleton, lots_singleton, List.append_assoc, Lot.draw_filled_cons]
    change Lot.filled [_] ++ Lot.draw type (n - given type n type' count) _ = _
    rw [inner]
    simp only [lot, less, lots_filter_isKept, List.append_assoc]
    rfl

/-- Taking from an inventory draws from its lots, in their order. -/
theorem draw_lots_takeAll (type : String) (n : Nat) (items : List Item) (after : List Lot) :
    Lot.draw type n (lots items ++ after) =
      lots (takeAll type n items).1 ++ Lot.draw type (takeAll type n items).2 after := by
  match items with
  | [] => rfl
  | item :: items =>
    rw [takeAll]
    split
    · rename_i enough
      rw [enough, Lot.draw_zero, Lot.draw_zero]
    · have first := draw_lots_take type n item (lots items ++ after)
      have others := draw_lots_takeAll type (take type n item).2 items after
      rw [← List.singleton_append, lots_append, List.append_assoc, first, others,
        ← List.append_assoc, ← lots_append]
      rfl

end

/-- Taking items draws from the lots. -/
theorem lots_remove (type : String) (n : Nat) (items : List Item) :
    lots (remove type n items) = Lot.draw type n (lots items) := by
  have walk := draw_lots_takeAll type n items []
  rw [List.append_nil, Lot.draw_nil, List.append_nil] at walk
  rw [walk, remove, lots_filter_isKept]

/-- A removal takes as many units as it is asked for, or all of them. -/
theorem units_remove_self (type : String) (n : Nat) (items : List Item) :
    units type (remove type n items) = units type items - n := by
  rw [units, lots_remove, Lot.units_draw_self, units]

/-- A removal takes nothing of other types. -/
theorem units_remove_of_ne {type type' : String} (other : type' ≠ type) (n : Nat)
    (items : List Item) : units type' (remove type n items) = units type' items := by
  rw [units, lots_remove, Lot.units_draw_of_ne other, units]

end Item

end Parley
