import Mathlib.Algebra.Order.BigOperators.Group.List
import Mathlib.Algebra.Ring.Int.Defs
import Parley.Actor.Npc
import Parley.Actor.Player

/-!
# Packing

The same items can be packed in many ways: in another order, as more stacks or as fewer, inside of
containers or beside them. A count goes through the stacks in pre-order and stops at the greatest
32-bit integer; where some stacks owe items, it matters whether they come before it has stopped or
after. Where no stack does, a count is the exact total or the greatest integer, however the items
are packed.

`Repacked` is generated by single moves, and `repacked_iff` shows that no way to pack is missed:
such moves lead from one inventory without debts to another exactly if both hold the same number of
items of each type and category.
-/

namespace Parley

namespace Item

variable {p : Item → Bool} {items items' : List Item}

/-! ### Exact totals -/

/-- What a stack adds to a total, leaving its contents aside. -/
def addend (p : Item → Bool) (item : Item) : Int := if p item then item.count.toInt else 0

mutual

/-- The exact number of items in a stack and its contents, over the stacks that satisfy `p`. -/
def exactTotal (p : Item → Bool) : Item → Int
  | ⟨type, category, count, contents⟩ =>
    addend p ⟨type, category, count, contents⟩ + exactTotalAll p contents

/-- The exact number of items in an inventory, over the stacks that satisfy `p`. -/
def exactTotalAll (p : Item → Bool) : List Item → Int
  | [] => 0
  | item :: items => item.exactTotal p + exactTotalAll p items

end

theorem exactTotal_eq (p : Item → Bool) (item : Item) :
    item.exactTotal p = addend p item + exactTotalAll p item.contents := by
  cases item
  rw [exactTotal]

@[simp] theorem exactTotalAll_nil (p : Item → Bool) : exactTotalAll p [] = 0 := by
  rw [exactTotalAll]

theorem exactTotalAll_cons (p : Item → Bool) (item : Item) (items : List Item) :
    exactTotalAll p (item :: items) =
      addend p item + exactTotalAll p item.contents + exactTotalAll p items := by
  rw [exactTotalAll, exactTotal_eq]

@[simp] theorem exactTotalAll_append (p : Item → Bool) (items items' : List Item) :
    exactTotalAll p (items ++ items') = exactTotalAll p items + exactTotalAll p items' := by
  induction items with
  | nil => simp
  | cons item items ih => simp [exactTotalAll_cons, ih, Int.add_assoc]

/-- The order of items does not count. -/
theorem exactTotalAll_perm (p : Item → Bool) (order : items.Perm items') :
    exactTotalAll p items = exactTotalAll p items' := by
  induction order with
  | nil => rfl
  | cons item _ ih => rw [exactTotalAll_cons, exactTotalAll_cons, ih]
  | swap item item' items =>
    simp only [exactTotalAll_cons]
    omega
  | trans _ _ ih ih' => exact ih.trans ih'

/-- The total is made up of what the stacks add and of what is inside of them. -/
theorem exactTotalAll_eq_add (p : Item → Bool) (items : List Item) :
    exactTotalAll p items =
      (items.map (addend p)).sum + exactTotalAll p (items.flatMap contents) := by
  induction items with
  | nil => simp
  | cons item items ih =>
    rw [exactTotalAll_cons, ih, List.map_cons, List.sum_cons, List.flatMap_cons,
      exactTotalAll_append]
    omega

/-- Pre-order meets every stack once. -/
theorem exactTotalAll_eq_sum (p : Item → Bool) : (items : List Item) →
    exactTotalAll p items = ((flattenAll items).map (addend p)).sum
  | [] => by rw [exactTotalAll, flattenAll, List.map_nil, List.sum_nil]
  | ⟨type, category, count, contents⟩ :: items => by
    rw [exactTotalAll_cons, flattenAll_cons, List.map_cons, List.sum_cons, List.map_append,
      List.sum_append, exactTotalAll_eq_sum p contents, exactTotalAll_eq_sum p items,
      Int.add_assoc]

/-! ### Saturating totals -/

/-- As long as no stack takes anything off, a total that has reached its limit stays there. -/
theorem toInt_foldl_total {sum : Int32} {n : Int}
    (start : sum.toInt = min Int32.maxValue.toInt n) (nonneg : 0 ≤ n)
    (free : ∀ item ∈ items, 0 ≤ addend p item) :
    (items.foldl (fun sum item => if p item then add32 sum item.count else sum) sum).toInt =
      min Int32.maxValue.toInt (n + (items.map (addend p)).sum) := by
  induction items generalizing sum n with
  | nil => simpa using start
  | cons item items ih =>
    obtain ⟨here, later⟩ := List.forall_mem_cons.1 free
    -- The exact number `n` goes on beyond the limit, where the sum stays.
    have next : (if p item then add32 sum item.count else sum).toInt =
        min Int32.maxValue.toInt (n + addend p item) := by
      unfold addend at here ⊢
      split
      · rename_i counted
        rw [if_pos counted] at here
        rw [add32, toInt_clamp32, start, Int32.toInt_minValue, Int32.toInt_maxValue]
        omega
      · rw [start, Int.add_zero]
    rw [List.foldl_cons, List.map_cons, List.sum_cons, ← Int.add_assoc]
    exact ih next (Int.add_nonneg nonneg here) later

/-- If no stack takes anything off, a total is exact up to its limit. -/
theorem toInt_total (free : ∀ item ∈ flattenAll items, 0 ≤ addend p item) :
    (total p items).toInt = min Int32.maxValue.toInt (exactTotalAll p items) := by
  have start : (0 : Int32).toInt = min Int32.maxValue.toInt 0 := by decide
  rw [total, toInt_foldl_total start (Int.le_refl 0) free, Int.zero_add, exactTotalAll_eq_sum]

/-! ### Inventories without debts -/

/-- No stack of an inventory owes items, at any depth. -/
def DebtFree (items : List Item) : Prop := ∀ item ∈ flattenAll items, 0 ≤ item.count

instance (items : List Item) : Decidable (DebtFree items) :=
  inferInstanceAs (Decidable (∀ item ∈ _, _))

theorem addend_nonneg (p : Item → Bool) {item : Item} (h : 0 ≤ item.count) :
    0 ≤ addend p item := by
  unfold addend
  rw [Int32.le_iff_toInt_le, Int32.toInt_zero] at h
  split
  · exact h
  · exact Int.le_refl 0

/-- Without debts, a saturating total is the exact one as far as it can be represented. -/
theorem DebtFree.toInt_total (p : Item → Bool) (h : DebtFree items) :
    (total p items).toInt = min Int32.maxValue.toInt (exactTotalAll p items) :=
  Item.toInt_total fun item mem => addend_nonneg p (h item mem)

/-- With a rope that is owed, the order of the stacks matters. -/
example :
    let rope (count : Int32) : Item := .plain "rope" "tools" count
    countType "rope" [rope 2147483647, rope 1, rope (-1)] = 2147483646 ∧
      countType "rope" [rope (-1), rope 2147483647, rope 1] = 2147483647 := by decide

theorem debtFree_iff_forall :
    DebtFree items ↔ ∀ item ∈ items, 0 ≤ item.count ∧ DebtFree item.contents :=
  forall_mem_flattenAll_iff

@[simp] theorem debtFree_nil : DebtFree [] := debtFree_iff_forall.2 nofun

@[simp] theorem debtFree_cons {item : Item} :
    DebtFree (item :: items) ↔ (0 ≤ item.count ∧ DebtFree item.contents) ∧ DebtFree items := by
  rw [debtFree_iff_forall, List.forall_mem_cons, ← debtFree_iff_forall]

@[simp] theorem debtFree_append :
    DebtFree (items ++ items') ↔ DebtFree items ∧ DebtFree items' := by
  rw [debtFree_iff_forall, List.forall_mem_append, ← debtFree_iff_forall, ← debtFree_iff_forall]

theorem debtFree_flatMap_contents :
    DebtFree (items.flatMap contents) ↔ ∀ item ∈ items, DebtFree item.contents := by
  induction items with
  | nil => simp
  | cons item items ih =>
    rw [List.flatMap_cons, debtFree_append, List.forall_mem_cons, ih]

/-! ### Other ways to pack -/

/-- The same items are packed in another way. -/
inductive Repacked : List Item → List Item → Prop
  | refl (items : List Item) : Repacked items items
  | symm {items items' : List Item} (h : Repacked items items') : Repacked items' items
  | trans {items items' items'' : List Item} (h : Repacked items items')
      (h' : Repacked items' items'') : Repacked items items''
  /-- Stacks are put into another order. -/
  | reorder {items items' : List Item} (order : items.Perm items') : Repacked items items'
  /-- A stack is split into several of its type and category that owe nothing and share out its
  items and its contents; if it has neither, there may be none. -/
  | split {item : Item} {parts : List Item}
      (alike : ∀ part ∈ parts, part.type = item.type ∧ part.category = item.category)
      (free : ∀ part ∈ parts, 0 ≤ part.count)
      (shares : (parts.map (·.count.toInt)).sum = item.count.toInt)
      (inner : parts.flatMap contents = item.contents) : Repacked [item] parts
  /-- A stack is moved into another one. -/
  | moveIn (item box : Item) :
      Repacked [item, box] [{ box with contents := item :: box.contents }]
  /-- The contents of a stack are packed in another way. -/
  | inside {item : Item} {contents' : List Item} (h : Repacked item.contents contents') :
      Repacked [item] [{ item with contents := contents' }]
  /-- Stacks that are side by side are packed in another way. -/
  | append {items items' others others' : List Item} (h : Repacked items items')
      (h' : Repacked others others') : Repacked (items ++ others) (items' ++ others')

/-- Does the type and the category of the stack satisfy `q`? -/
def byKind (q : String → String → Bool) (item : Item) : Bool := q item.type item.category

theorem addend_byKind_with (q : String → String → Bool) (item : Item) (contents' : List Item) :
    addend (byKind q) { item with contents := contents' } = addend (byKind q) item := rfl

/-- The parts of a stack add together what the stack adds. -/
theorem sum_addend_parts (q : String → String → Bool) {item : Item} {parts : List Item}
    (alike : ∀ part ∈ parts, part.type = item.type ∧ part.category = item.category)
    (shares : (parts.map (·.count.toInt)).sum = item.count.toInt) :
    (parts.map (addend (byKind q))).sum = addend (byKind q) item := by
  have same : ∀ part ∈ parts, byKind q part = byKind q item := by
    intro part mem
    obtain ⟨type, category⟩ := alike part mem
    rw [byKind, byKind, type, category]
  by_cases counted : byKind q item
  · rw [addend, if_pos counted, ← shares]
    refine congrArg _ (List.map_congr_left fun part mem => ?_)
    rw [addend, same part mem, if_pos counted]
  · rw [addend, if_neg counted]
    refine List.sum_eq_zero fun n mem => ?_
    obtain ⟨part, mem', rfl⟩ := List.mem_map.1 mem
    rw [addend, same part mem', if_neg counted]

namespace Repacked

/-- Packing keeps the total over any types and categories. -/
theorem exactTotalAll_eq (h : Repacked items items') (q : String → String → Bool) :
    exactTotalAll (byKind q) items = exactTotalAll (byKind q) items' := by
  induction h with
  | refl => rfl
  | symm _ ih => exact ih.symm
  | trans _ _ ih ih' => exact ih.trans ih'
  | reorder order => exact exactTotalAll_perm _ order
  | @split item parts alike _ shares inner =>
    rw [exactTotalAll_eq_add _ parts, sum_addend_parts q alike shares, inner, exactTotalAll_cons,
      exactTotalAll_nil, Int.add_zero]
  | moveIn item box =>
    simp only [exactTotalAll_cons, exactTotalAll_nil, addend_byKind_with]
    omega
  | inside _ ih => simp only [exactTotalAll_cons, addend_byKind_with, ih]
  | append _ _ ih ih' => rw [exactTotalAll_append, exactTotalAll_append, ih, ih']

/-- Packing brings no debts and pays none. -/
theorem debtFree_iff (h : Repacked items items') : DebtFree items ↔ DebtFree items' := by
  induction h with
  | refl => rfl
  | symm _ ih => exact ih.symm
  | trans _ _ ih ih' => exact ih.trans ih'
  | reorder order =>
    rw [debtFree_iff_forall, debtFree_iff_forall]
    simp only [order.mem_iff]
  | @split item parts _ free shares inner =>
    have nonneg : 0 ≤ item.count := by
      rw [Int32.le_iff_toInt_le, Int32.toInt_zero, ← shares]
      refine List.sum_nonneg fun n mem => ?_
      obtain ⟨part, mem', rfl⟩ := List.mem_map.1 mem
      exact Int32.le_iff_toInt_le.1 (free part mem')
    rw [debtFree_cons, and_iff_left debtFree_nil, ← inner, debtFree_flatMap_contents,
      debtFree_iff_forall]
    exact ⟨fun h part mem => ⟨free part mem, h.2 part mem⟩,
      fun h => ⟨nonneg, fun part mem => (h part mem).2⟩⟩
  | moveIn item box =>
    simp only [debtFree_cons, debtFree_nil, and_true]
    tauto
  | inside _ ih => simp only [debtFree_cons, ih]
  | append _ _ ih ih' => simp only [debtFree_append, ih, ih']

end Repacked

/-- Without debts any types and categories are counted alike, however the items are packed. -/
theorem Repacked.total_eq (h : Repacked items items') (free : DebtFree items)
    (q : String → String → Bool) : total (byKind q) items = total (byKind q) items' := by
  have free' := h.debtFree_iff.1 free
  rw [← Int32.toInt_inj, free.toInt_total, free'.toInt_total, h.exactTotalAll_eq]

/-! ### One item at a time -/

/-- A stack of a single item. -/
def single (kind : String × String) : Item := plain kind.1 kind.2 1

/-- The types and categories of the items in an inventory, once for each item. -/
def kinds (items : List Item) : List (String × String) :=
  (flattenAll items).flatMap fun item =>
    .replicate item.count.toInt.toNat (item.type, item.category)

/-- Is the stack of a type and a category? -/
def isOf (type category : String) (item : Item) : Bool :=
  item.type = type && item.category = category

theorem isOf_iff {type category : String} {item : Item} :
    isOf type category item = true ↔ item.type = type ∧ item.category = category := by
  rw [isOf, Bool.and_eq_true, decide_eq_true_eq, decide_eq_true_eq]

theorem kinds_cons (item : Item) (items : List Item) :
    kinds (item :: items) =
      .replicate item.count.toInt.toNat (item.type, item.category) ++
        (kinds item.contents ++ kinds items) := by
  rw [kinds, flattenAll_cons, List.flatMap_cons, List.flatMap_append]
  rfl

theorem exactTotalAll_map_single (type category : String) (kinds : List (String × String)) :
    exactTotalAll (isOf type category) (kinds.map single) = kinds.count (type, category) := by
  induction kinds with
  | nil => simp
  | cons kind kinds ih =>
    have isOf_single : isOf type category (single kind) = true ↔ kind = (type, category) := by
      rw [isOf_iff, Prod.ext_iff]
      rfl
    have bare : (single kind).contents = [] := rfl
    rw [List.map_cons, exactTotalAll_cons, bare, exactTotalAll_nil, Int.add_zero, ih]
    by_cases same : kind = (type, category)
    · have here : addend (isOf type category) (single kind) = 1 := if_pos (isOf_single.2 same)
      rw [here, same, List.count_cons_self]
      omega
    · have here : addend (isOf type category) (single kind) = 0 := if_neg (mt isOf_single.1 same)
      rw [here, List.count_cons_of_ne same, Int.zero_add]

namespace Repacked

/-- Packing items differently does not change how many there are of a kind. -/
theorem exactTotalAll_isOf (h : Repacked items items') (type category : String) :
    exactTotalAll (isOf type category) items = exactTotalAll (isOf type category) items' :=
  h.exactTotalAll_eq fun type' category' => type' = type && category' = category

/-- A stack can be put beside what was in it. -/
theorem emptied (item : Item) :
    Repacked [item] (plain item.type item.category item.count :: item.contents) := by
  obtain ⟨type, category, count, contents⟩ := item
  induction contents with
  | nil => exact .refl _
  | cons inner contents ih =>
    have out : Repacked [⟨type, category, count, inner :: contents⟩]
        ([inner] ++ [⟨type, category, count, contents⟩]) :=
      (moveIn inner ⟨type, category, count, contents⟩).symm
    exact (out.trans ((refl [inner]).append ih)).trans (reorder (.swap ..))

/-- A stack without contents can be split into single items. -/
theorem singles_of_plain (type category : String) {count : Int32} (h : 0 ≤ count) :
    Repacked [plain type category count]
      ((List.replicate count.toInt.toNat (type, category)).map single) := by
  rw [Int32.le_iff_toInt_le, Int32.toInt_zero] at h
  rw [List.map_replicate]
  refine split (fun part mem => ?_) (fun part mem => ?_) ?_ ?_
  · rw [List.eq_of_mem_replicate mem]
    exact ⟨rfl, rfl⟩
  · rw [List.eq_of_mem_replicate mem]
    exact show (0 : Int32) ≤ 1 by decide
  · have one : (single (type, category)).count.toInt = 1 := rfl
    rw [List.map_replicate, one, List.sum_replicate, Int.nsmul_eq_mul, Int.mul_one]
    exact Int.toNat_of_nonneg h
  · simp [single, plain]

/-- What is free of debts can be unpacked into single items. -/
theorem singles : (items : List Item) → DebtFree items →
    Repacked items ((kinds items).map single)
  | [], _ => refl []
  | ⟨type, category, count, contents⟩ :: items, free => by
    obtain ⟨⟨nonneg, inner⟩, others⟩ := debtFree_cons.1 free
    have stack := singles_of_plain type category nonneg
    have unpacked := stack.append ((singles contents inner).append (singles items others))
    rw [kinds_cons, List.map_append, List.map_append]
    -- Only an empty stack can be split item by item: what is in it comes out first.
    exact ((emptied _).append (refl items)).trans unpacked

end Repacked

/-- The kinds of an inventory list each kind as often as there are items of it. -/
theorem count_kinds (free : DebtFree items) (type category : String) :
    ((kinds items).count (type, category) : Int) = exactTotalAll (isOf type category) items := by
  rw [(Repacked.singles items free).exactTotalAll_isOf, exactTotalAll_map_single]

/-- An inventory without debts can be packed as another one exactly if that has no debts either
and both hold the same number of items of each type and category. -/
theorem repacked_iff (free : DebtFree items) :
    Repacked items items' ↔ DebtFree items' ∧ ∀ type category,
      exactTotalAll (isOf type category) items = exactTotalAll (isOf type category) items' := by
  constructor
  · intro h
    exact ⟨h.debtFree_iff.1 free, h.exactTotalAll_isOf⟩
  · rintro ⟨free', same⟩
    have order : (kinds items).Perm (kinds items') := by
      refine List.perm_iff_count.2 fun ⟨type, category⟩ => Int.ofNat_inj.1 ?_
      rw [count_kinds free, count_kinds free', same]
    have unpacked := Repacked.singles items free
    have unpacked' := Repacked.singles items' free'
    exact (unpacked.trans (.reorder (order.map single))).trans unpacked'.symm

end Item

/-! ### Counts -/

namespace Actor

variable {α β : Type} [Actor α] [Actor β]

/-- Where no stack owes items, a count of a type or of a category is the exact number over the whole
inventory, or the greatest integer where that is greater. An inventory can be packed as another one
exactly if that owes nothing either and holds the same number of items of each type and category,
and then everything is counted alike. -/
theorem counts_independent_of_packing (a : α) (free : Item.DebtFree (inventory a)) :
    (∀ type, (itemCount a type).toInt =
        min Int32.maxValue.toInt (Item.exactTotalAll (·.type = type) (inventory a))) ∧
      (∀ category, (categoryCount a category).toInt =
        min Int32.maxValue.toInt (Item.exactTotalAll (·.category = category) (inventory a))) ∧
      ∀ b : β,
        (Item.Repacked (inventory a) (inventory b) ↔
          Item.DebtFree (inventory b) ∧ ∀ type category,
            Item.exactTotalAll (Item.isOf type category) (inventory a) =
              Item.exactTotalAll (Item.isOf type category) (inventory b)) ∧
        (Item.Repacked (inventory a) (inventory b) →
          (∀ type, itemCount b type = itemCount a type) ∧
            ∀ category, categoryCount b category = categoryCount a category) := by
  refine ⟨fun type => free.toInt_total _, fun category => free.toInt_total _, fun b =>
    ⟨Item.repacked_iff free, fun repacked => ⟨fun type => ?_, fun category => ?_⟩⟩⟩
  · exact (repacked.total_eq free fun type' _ => type' = type).symm
  · exact (repacked.total_eq free fun _ category' => category' = category).symm

/-- Of six ropes more than can be counted the greatest integer is counted, inside of a box beside
nails as well as outside of it in two stacks. -/
theorem ropes_counted_beside_box :
    let rope (count : Int32) : Item := .plain "rope" "tools" count
    let nails : Item := .plain "nail" "" 5
    let box (contents : List Item) : Item := ⟨"box", "", 1, contents⟩
    let a : Player :=
      .ofSheet { Sheet.new "Bob" with inventory := [rope 2147483647, box [rope 6, nails]] }
    let b : Npc :=
      .ofSheet { Sheet.new "Ann" with inventory := [box [nails], rope 2147483647, rope 4, rope 2] }
    Item.DebtFree (inventory a) ∧ Item.Repacked (inventory a) (inventory b) ∧
      (itemCount a "rope").toInt = min Int32.maxValue.toInt 2147483653 ∧
      itemCount b "rope" = itemCount a "rope" ∧ itemCount b "nail" = itemCount a "nail" ∧
      categoryCount b "tools" = categoryCount a "tools" := by
  intro rope nails box a b
  have free : Item.DebtFree (inventory a) := by decide +kernel
  have repacked : Item.Repacked (inventory a) (inventory b) := by
    have out : Item.Repacked [box [rope 6, nails]] ([rope 6] ++ [box [nails]]) :=
      (Item.Repacked.moveIn (rope 6) (box [nails])).symm
    have parted : Item.Repacked [rope 6] [rope 4, rope 2] :=
      .split (by decide +kernel) (by decide +kernel) (by decide) rfl
    have beside := out.trans (parted.append (.refl [box [nails]]))
    refine ((Item.Repacked.refl [rope 2147483647]).append beside).trans (.reorder ?_)
    exact List.perm_append_singleton (box [nails]) [rope 2147483647, rope 4, rope 2]
  obtain ⟨count, -, others⟩ := counts_independent_of_packing (β := Npc) a free
  obtain ⟨types, categories⟩ := (others b).2 repacked
  exact ⟨free, repacked, count "rope", types "rope", types "nail", categories "tools"⟩

end Actor

end Parley
