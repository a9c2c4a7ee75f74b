import Parley.Proofs.Packing
import Parley.Proofs.Trade

/-!
# Removal

Items leave an inventory in a certain number, or all those of a type at once. A certain number is
taken exactly or not at all. To take all, the items are counted first; the count stops at the
greatest 32-bit integer, and stacks that owe items lower it, so that more may be there than were
counted. `Item.owed` is the exact number of items that are owed, as `Item.units` is that of the
items that are there.
-/

namespace Parley

namespace Item

/-- Exactly `n` items of a type are gone, and nothing else: the stacks with something in them are
the old ones, in pre-order, with `n` items of the type drawn from the front. -/
structure Removed (type : String) (n : Nat) (items items' : List Item) : Prop where
  parted : units type items' + n = units type items
  others : ∀ type', type' ≠ type → units type' items' = units type' items
  front : lots items' = Lot.draw type n (lots items)

theorem removed_zero (type : String) (items : List Item) : Removed type 0 items items :=
  ⟨rfl, fun _ _ => rfl, (Lot.draw_zero type (lots items)).symm⟩

/-- Where there are enough units, taking some removes just these. -/
theorem removed_remove {type : String} {n : Nat} {items : List Item}
    (enough : n ≤ units type items) : Removed type n items (remove type n items) where
  parted := by rw [units_remove_self, Nat.sub_add_cancel enough]
  others := fun _ other => units_remove_of_ne other n items
  front := lots_remove type n items

/-! ### Items that are owed -/

/-- The number of items of a type that some stacks owe, leaving their contents aside. -/
def debts (type : String) : List Item → Nat
  | [] => 0
  | item :: items => debt type item + debts type items

@[simp] theorem debts_nil (type : String) : debts type [] = 0 := rfl

theorem debts_cons (type : String) (item : Item) (items : List Item) :
    debts type (item :: items) = debt type item + debts type items := rfl

@[simp] theorem debts_append (type : String) (items items' : List Item) :
    debts type (items ++ items') = debts type items + debts type items' := by
  induction items with
  | nil => simp
  | cons item items ih => simp [debts_cons, ih, Nat.add_assoc]

/-- Nothing is owed where no item has a negative count. -/
theorem debts_eq_zero_iff {type : String} {items : List Item} :
    debts type items = 0 ↔ ∀ item ∈ items, debt type item = 0 := by
  induction items with
  | nil => simp
  | cons item items ih => rw [debts_cons, Nat.add_eq_zero_iff, ih, List.forall_mem_cons]

theorem debt_eq_zero (type : String) {item : Item} (h : 0 ≤ item.count.toInt) :
    debt type item = 0 := by
  unfold debt
  split <;> omega

/-- The number of items of a type that the stacks of an inventory owe, at any depth. -/
def owed (type : String) (items : List Item) : Nat := debts type (flattenAll items)

@[simp] theorem owed_nil (type : String) : owed type [] = 0 := rfl

theorem owed_cons (type : String) (item : Item) (items : List Item) :
    owed type (item :: items) = debt type item + (owed type item.contents + owed type items) := by
  rw [owed, flattenAll_cons, debts_cons, debts_append]
  rfl

theorem owed_filter_isKept_le (type : String) (items : List Item) :
    owed type (items.filter isKept) ≤ owed type items := by
  induction items with
  | nil => exact Nat.le_refl _
  | cons item items ih =>
    rw [List.filter_cons]
    split
    · rw [owed_cons, owed_cons]
      omega
    · rw [owed_cons]
      omega

/-- Nothing is taken from a stack that owes. -/
theorem debt_left (type type' category category' : String) {count : Int32} {n : Nat}
    (h : n ≤ count.toInt.toNat) (contents contents' : List Item) :
    debt type ⟨type', category, left count n h, contents⟩ =
      debt type ⟨type', category', count, contents'⟩ := by
  unfold debt
  dsimp only
  rw [toInt_left]
  split
  · omega
  · rfl

mutual

theorem owed_take_le (type type' : String) (n : Nat) (item : Item) :
    owed type [(take type' n item).1] ≤ owed type [item] := by
  match item with
  | ⟨type'', category, count, contents⟩ =>
    have inner := owed_takeAll_le type type' (n - given type' n type'' count) contents
    have kept := owed_filter_isKept_le type
      (takeAll type' (n - given type' n type'' count) contents).1
    rw [take, owed_cons, owed_cons]
    dsimp only
    rw [debt_left type type'' category category _ _ contents]
    omega

/-- Taking from an inventory increases no debt in it. -/
theorem owed_takeAll_le (type type' : String) (n : Nat) (items : List Item) :
    owed type (takeAll type' n items).1 ≤ owed type items := by
  match items with
  | [] => exact Nat.le_refl _
  | item :: items =>
    rw [takeAll]
    split
    · exact Nat.le_refl _
    · have first := owed_take_le type type' n item
      have others := owed_takeAll_le type type' (take type' n item).2 items
      rw [owed_cons, owed_cons] at first
      rw [owed_cons, owed_cons]
      dsimp only [owed_nil] at first ⊢
      omega

end

/-- Taking items brings no new debts. -/
theorem owed_remove_le (type type' : String) (n : Nat) (items : List Item) :
    owed type (remove type' n items) ≤ owed type items :=
  (owed_filter_isKept_le type _).trans (owed_takeAll_le type type' n items)

/-! ### What a count misses -/

section

variable (type : String) (items : List Item) (sum : Int32) {n : Nat}

/-- What a count has missed it does not make up for. -/
theorem count_fold_lt (h : sum.toInt ≤ n) (short : sum.toInt < n ∨ 0 < debts type items) :
    (items.foldl (countOne type) sum).toInt < n + Lot.units type (items.map lot) := by
  induction items generalizing sum n with
  | nil => simpa using short
  | cons item items ih =>
    have next := toInt_countOne type sum item
    rw [Int32.toInt_minValue, Int32.toInt_maxValue] at next
    rw [debts_cons] at short
    rw [List.foldl_cons, List.map_cons, Lot.units_cons_eq_add, ← Int.natCast_add,
      ← Nat.add_assoc]
    exact ih _ (by omega) (by omega)

/-- A count that stays within the range is exact. -/
theorem count_fold_exact
    (most : sum.toInt + Lot.units type (items.map lot) ≤ Int32.maxValue.toInt)
    (least : Int32.minValue.toInt ≤ sum.toInt - debts type items) :
    (items.foldl (countOne type) sum).toInt =
      sum.toInt + Lot.units type (items.map lot) - debts type items := by
  induction items generalizing sum with
  | nil => simp
  | cons item items ih =>
    have next := toInt_countOne type sum item
    rw [List.map_cons, Lot.units_cons_eq_add, Int32.toInt_maxValue] at most
    rw [debts_cons, Int32.toInt_minValue] at least
    rw [Int32.toInt_minValue, Int32.toInt_maxValue] at next ih
    rw [List.foldl_cons, ih _ (by omega) (by omega), List.map_cons, Lot.units_cons_eq_add,
      debts_cons]
    omega

end

variable {type : String} {items : List Item}

/-- With something owed, a count falls short of the units that are there. -/
theorem countType_lt_units (indebted : 0 < owed type items) :
    (countType type items).toInt < units type items := by
  have count := count_fold_lt type (flattenAll items) 0 (n := 0) (by decide) (.inr indebted)
  rw [countType_eq_foldl, units_eq_flattenAll]
  simpa using count

theorem addend_eq_sub (type : String) (item : Item) :
    addend (·.type = type) item = Lot.units type [item.lot] - debt type item := by
  have size : item.lot.size = item.count.toInt.toNat := rfl
  rw [Lot.units_cons, Lot.units_nil, size]
  by_cases same : item.type = type
  · have lot_same : item.lot.type = type := same
    rw [addend, debt, if_pos same, if_pos lot_same, if_pos (decide_eq_true same)]
    omega
  · have lot_other : ¬item.lot.type = type := same
    rw [addend, debt, if_neg same, if_neg lot_other, if_neg (by simpa using same)]
    rfl

/-- The exact total of a type is what is there less what is owed. -/
theorem exactTotalAll_eq_sub (type : String) (items : List Item) :
    exactTotalAll (·.type = type) items = units type items - owed type items := by
  rw [exactTotalAll_eq_sum, units_eq_flattenAll, owed]
  induction flattenAll items with
  | nil => rfl
  | cons item items ih =>
    rw [List.map_cons, List.sum_cons, ih, List.map_cons, Lot.units_cons_eq_add, addend_eq_sub,
      debts_cons]
    omega

/-- Without debts a count is exact up to its limit. -/
theorem countType_of_owed_eq_zero (free : owed type items = 0) :
    (countType type items).toInt = min (units type items : Int) Int32.maxValue.toInt := by
  have nonneg : ∀ item ∈ flattenAll items, 0 ≤ addend (·.type = type) item := by
    intro item mem
    rw [addend_eq_sub, debts_eq_zero_iff.1 free item mem]
    omega
  have count : (countType type items).toInt = _ := toInt_total nonneg
  rw [count, exactTotalAll_eq_sub, free]
  omega

/-- Within range, a count is the units that are there less what is owed. -/
theorem countType_eq_sub (most : units type items ≤ Int32.maxValue.toInt)
    (least : owed type items ≤ -Int32.minValue.toInt) :
    (countType type items).toInt = units type items - owed type items := by
  rw [units_eq_flattenAll] at *
  rw [owed] at *
  have count := count_fold_exact type (flattenAll items) 0
    (by rw [Int32.toInt_zero]; omega) (by rw [Int32.toInt_zero]; omega)
  rw [countType_eq_foldl, count, Int32.toInt_zero, Int.zero_add]

end Item

/-! ### Taking a certain number -/

namespace Actor

variable {α : Type} [Actor α] [memory : Actor.InMemory α] {a a' : α} {type : String}
  {count : Int32}

theorem one_le_of_removeItems (h : removeItems a type count = .ok a') :
    1 ≤ count ∧ count ≤ itemCount a type := by
  have wanted : 0 < count ∧ ¬itemCount a type < count := by
    cases memory <;>
    · obtain ⟨sheet, hs, -⟩ := map_eq_ok.1 h
      obtain ⟨some, owned, -⟩ := Sheet.removeItems_eq_ok.1 hs
      exact ⟨some, owned⟩
  obtain ⟨some, owned⟩ := wanted
  rw [Int32.lt_iff_toInt_lt, Int32.toInt_zero] at some
  rw [Int32.le_iff_toInt_le, Int32.toInt_one]
  exact ⟨some, Int32.not_lt.1 owned⟩

/-- Items are given away if they are at least one and no more than are counted. -/
theorem removeItems_succeeds_iff :
    (∃ a', removeItems a type count = .ok a') ↔ 1 ≤ count ∧ count ≤ itemCount a type := by
  constructor
  · rintro ⟨a', h⟩
    exact one_le_of_removeItems h
  · rintro ⟨some, owned⟩
    exact removeItems_of_le (Int32.lt_of_lt_of_le (by decide) some) (Int32.not_lt.2 owned)

theorem removed_of_removeItems (h : removeItems a type count = .ok a') :
    Item.Removed type count.toInt.toNat (inventory a) (inventory a') := by
  obtain ⟨some, owned⟩ := one_le_of_removeItems h
  rw [inventory_removeItems h]
  apply Item.removed_remove
  have there := Item.countType_le_units type (inventory a)
  rw [Int32.le_iff_toInt_le] at some owned
  rw [itemCount] at owned
  rw [Int32.toInt_one] at some
  omega

end Actor

/-- To take a number of items of a type from one of two actors kept in memory succeeds exactly if
the number is positive and no greater than what is counted. If it fails nothing changes. If it
succeeds exactly that many items are gone from the inventory, at whatever depth they were. -/
theorem Act.removal_takes_exactly {α β : Type} [Actor α] [Actor β] [Actor.InMemory α]
    [Actor.InMemory β] (enc : Encounter α β) (target : Target) (type : String) (count : Int32) :
    let removal : Act α β Unit := tell? target (Actor.removeItems · type count)
    ((∃ enc', removal.Succeeds enc () enc') ↔
        1 ≤ count ∧ count ≤ enc.scene.ask target (Actor.itemCount · type)) ∧
      (∀ failure enc', removal.Fails enc failure enc' → enc' = enc) ∧
      ∀ enc', removal.Succeeds enc () enc' → Item.Removed type count.toInt.toNat
        (enc.scene.ask target Actor.inventory) (enc'.scene.ask target Actor.inventory) := by
  intro removal
  refine ⟨?_, fun failure enc' h => (fails_tell?.1 h).2.symm, fun enc' h => ?_⟩
  · cases target with
    | u =>
      simp only [removal, succeeds_tell?, Scene.tell?_u_eq_ok]
      constructor
      · rintro ⟨-, -, ⟨u, removed, -⟩, -⟩
        exact Actor.one_le_of_removeItems removed
      · intro wanted
        obtain ⟨u, removed⟩ := Actor.removeItems_succeeds_iff.2 wanted
        exact ⟨_, _, ⟨u, removed, rfl⟩, rfl⟩
    | npc =>
      simp only [removal, succeeds_tell?, Scene.tell?_npc_eq_ok]
      constructor
      · rintro ⟨-, -, ⟨npc, removed, -⟩, -⟩
        exact Actor.one_le_of_removeItems removed
      · intro wanted
        obtain ⟨npc, removed⟩ := Actor.removeItems_succeeds_iff.2 wanted
        exact ⟨_, _, ⟨npc, removed, rfl⟩, rfl⟩
  · obtain ⟨s, told, rfl⟩ := succeeds_tell?.1 h
    cases target with
    | u =>
      obtain ⟨u, removed, rfl⟩ := Scene.tell?_u_eq_ok.1 told
      exact Actor.removed_of_removeItems removed
    | npc =>
      obtain ⟨npc, removed, rfl⟩ := Scene.tell?_npc_eq_ok.1 told
      exact Actor.removed_of_removeItems removed

/-- Three ropes are taken, the first two of them from a coil that stays for the nails in it. A rope
that is owed keeps a sixth from being taken, though there are six. -/
theorem Act.ropes_taken_from_coil :
    let coil : Item := ⟨"rope", "tools", 2, [.plain "nail" "" 5]⟩
    let box : Item := ⟨"box", "", 1, [.plain "rope" "tools" 4, .plain "rope" "tools" (-1)]⟩
    let u : Player := .ofSheet { Sheet.new "Bob" with inventory := [coil, box] }
    let enc : Encounter Player Npc :=
      { scene :=
          { u, npc := .ofSheet (.new "Ann"), globals := .empty, current := { id := "TALK" }
            earlier := [], missionsAssigned := [], byRadio := false }
        generator := .ofSeed 0
        handoff := none }
    let removal (count : Int32) : Act Player Npc Unit := tell? .u (Actor.removeItems · "rope" count)
    Item.units "rope" (Actor.inventory u) = 6 ∧ (¬∃ enc', (removal 6).Succeeds enc () enc') ∧
      ∃ enc', (removal 3).Succeeds enc () enc' ∧
        Item.Removed "rope" 3 (Actor.inventory u) (Actor.inventory enc'.scene.u) ∧
        Item.lots (Actor.inventory enc'.scene.u) =
          [⟨"nail", "", 5⟩, ⟨"box", "", 1⟩, ⟨"rope", "tools", 3⟩] := by
  intro coil box u enc removal
  obtain ⟨six, -, -⟩ := removal_takes_exactly enc .u "rope" 6
  obtain ⟨three, -, taken⟩ := removal_takes_exactly enc .u "rope" 3
  obtain ⟨enc', done⟩ := three.2 (by decide +kernel)
  have removed := taken enc' done
  refine ⟨by decide +kernel, six.not.2 (by decide +kernel), enc', done, removed, ?_⟩
  exact removed.front.trans (by decide +kernel)

/-! ### Taking all -/

namespace Item

/-- The inventory without the items of a type, as far as they are counted. -/
def removeAll (type : String) (items : List Item) : List Item :=
  if 0 < countType type items then remove type (countType type items).toInt.toNat items
  else items

variable (type : String) (items : List Item)

/-- Removing all takes as many units as are counted. -/
theorem removed_removeAll :
    Removed type (countType type items).toInt.toNat items (removeAll type items) := by
  rw [removeAll]
  split
  · apply removed_remove
    have there := countType_le_units type items
    omega
  · rename_i none
    rw [Int32.lt_iff_toInt_lt, Int32.toInt_zero, Int.not_lt] at none
    rw [Int.toNat_of_nonpos none]
    exact removed_zero type items

/-- Removing all increases no debt. -/
theorem owed_removeAll_le : owed type (removeAll type items) ≤ owed type items := by
  rw [removeAll]
  split
  · exact owed_remove_le type type _ items
  · exact Nat.le_refl _

variable {type items}

/-- No item is left if the count missed none. -/
theorem units_removeAll_eq_zero_iff : units type (removeAll type items) = 0 ↔
    units type items = 0 ∨
      owed type items = 0 ∧ units type items ≤ Int32.maxValue.toInt := by
  have parted := (removed_removeAll type items).parted
  have missed := countType_le_units type items
  rcases Nat.eq_zero_or_pos (owed type items) with free | indebted
  · have count := countType_of_owed_eq_zero free
    rw [Int32.toInt_maxValue] at *
    omega
  · have count := countType_lt_units indebted
    omega

/-- Without debts some are counted afterwards if there were more than can be counted. -/
theorem countType_removeAll_pos_iff_of_owed_eq_zero (free : owed type items = 0) :
    0 < countType type (removeAll type items) ↔ Int32.maxValue.toInt < units type items := by
  have parted := (removed_removeAll type items).parted
  have count := countType_of_owed_eq_zero free
  have count' := countType_of_owed_eq_zero
    (Nat.eq_zero_of_le_zero (free ▸ owed_removeAll_le type items))
  rw [Int32.lt_iff_toInt_lt, Int32.toInt_zero]
  rw [Int32.toInt_maxValue] at *
  omega

/-- Where nothing is beyond counting, some are counted afterwards if debts were dropped. -/
theorem countType_removeAll_pos_iff (most : units type items ≤ Int32.maxValue.toInt)
    (least : owed type items ≤ -Int32.minValue.toInt) :
    0 < countType type (removeAll type items) ↔
      owed type (removeAll type items) < owed type items := by
  by_cases some : 0 < countType type items
  · have parted := (removed_removeAll type items).parted
    have owed_le := owed_removeAll_le type items
    have count := countType_eq_sub most least
    have count' : (countType type (removeAll type items)).toInt =
        units type (removeAll type items) - owed type (removeAll type items) :=
      countType_eq_sub (by omega) (by omega)
    rw [Int32.lt_iff_toInt_lt, Int32.toInt_zero] at *
    omega
  · rw [removeAll, if_neg some]
    exact iff_of_false some (Nat.lt_irrefl _)

end Item

/-- What is counted is taken, if it is anything. -/
theorem Sheet.removeAllItems_eq (s : Sheet) (type : String) : s.removeAllItems type =
    (if 0 < Item.countType type s.inventory then Item.countType type s.inventory else 0,
      { s with inventory := Item.removeAll type s.inventory }) := by
  rw [removeAllItems, Item.removeAll]
  split
  · rename_i some
    have taken := removeItems_eq_ok.2 ⟨some, Int32.lt_irrefl, rfl⟩
    rw [taken]
  · rfl

namespace Actor

variable {α : Type} [Actor α] [memory : Actor.InMemory α]

/-- The number reported is the count, or zero for a debt. -/
theorem toInt_removeAllItems (a : α) (type : String) :
    (removeAllItems a type).1.toInt = (itemCount a type).toInt.toNat := by
  have taken : (removeAllItems a type).1 =
      if 0 < itemCount a type then itemCount a type else 0 := by
    cases memory with
    | player => exact congrArg (·.1) (a.sheet.removeAllItems_eq type)
    | npc => exact congrArg (·.1) (a.sheet.removeAllItems_eq type)
  rw [taken]
  split
  · rename_i some
    rw [Int32.lt_iff_toInt_lt, Int32.toInt_zero] at some
    omega
  · rename_i none
    rw [Int32.lt_iff_toInt_lt, Int32.toInt_zero] at none
    rw [Int32.toInt_zero]
    omega

theorem inventory_removeAllItems (a : α) (type : String) :
    inventory (removeAllItems a type).2 = Item.removeAll type (inventory a) := by
  cases memory with
  | player => exact congrArg (·.2.inventory) (a.sheet.removeAllItems_eq type)
  | npc => exact congrArg (·.2.inventory) (a.sheet.removeAllItems_eq type)

/-- To take all items of a type takes as many as it reports, from the front, and nothing else. None
is left exactly if there was none, or none was owed and there were no more than can be counted.
So the actor may still have some afterwards: without debts exactly if there were more than can be
counted, and if nothing is beyond counting exactly if stacks that owe some were dropped along with
those that were used up. -/
theorem all_items_taken_iff (a : α) (type : String) :
    0 ≤ (removeAllItems a type).1 ∧
      Item.Removed type (removeAllItems a type).1.toInt.toNat (inventory a)
        (inventory (removeAllItems a type).2) ∧
      let a' := (removeAllItems a type).2
      let units := Item.units type
      let owed := Item.owed type
      (units (inventory a') = 0 ↔ units (inventory a) = 0 ∨
        owed (inventory a) = 0 ∧ units (inventory a) ≤ Int32.maxValue.toInt) ∧
      (owed (inventory a) = 0 →
        (hasItem a' type = true ↔ Int32.maxValue.toInt < units (inventory a))) ∧
      (units (inventory a) ≤ Int32.maxValue.toInt →
        owed (inventory a) ≤ -Int32.minValue.toInt →
        (hasItem a' type = true ↔ owed (inventory a') < owed (inventory a))) := by
  have number := toInt_removeAllItems a type
  have rest := inventory_removeAllItems a type
  have some_iff : hasItem (removeAllItems a type).2 type = true ↔
      0 < Item.countType type (inventory (removeAllItems a type).2) := by
    rw [hasItem, decide_eq_true_eq, itemCount]
  dsimp only
  rw [some_iff, rest]
  refine ⟨?_, ?_, Item.units_removeAll_eq_zero_iff,
    Item.countType_removeAll_pos_iff_of_owed_eq_zero, Item.countType_removeAll_pos_iff⟩
  · rw [Int32.le_iff_toInt_le, Int32.toInt_zero, number]
    exact Int.natCast_nonneg _
  · rw [number, Int.toNat_natCast]
    exact Item.removed_removeAll type (inventory a)

/-- Of one rope more than can be counted, one is left. Where three ropes are owed beside five that
are there, two are counted and taken, and the debt is dropped with them: three are left. -/
theorem ropes_left_behind :
    let owner (counts : List Int32) : Player :=
      .ofSheet { Sheet.new "Bob" with inventory := counts.map (.plain "rope" "tools") }
    let rich := removeAllItems (owner [2147483647, 1]) "rope"
    let indebted := removeAllItems (owner [5, -3]) "rope"
    (rich.1 = 2147483647 ∧ hasItem rich.2 "rope" = true) ∧
      indebted.1 = 2 ∧ hasItem indebted.2 "rope" = true := by
  decide +kernel

end Actor

end Parley
