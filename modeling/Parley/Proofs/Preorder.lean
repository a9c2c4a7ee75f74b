import Mathlib.Data.List.Basic
import Parley.Item

/-!
# Pre-order

Where the stacks of an inventory are. A place says how to get to a stack: the position in the
inventory first, and then, for each stack on the way down, the position among its contents. In
pre-order the stacks are met as their places are ordered lexicographically, so that a stack comes
before its contents and both come before the stacks that follow.
-/

namespace Parley

namespace Item

/-- The stack that is found by going down through the contents of a stack. -/
def within? : Item → List Nat → Option Item
  | item, [] => some item
  | item, position :: path => item.contents[position]?.bind (·.within? path)

/-- The stack at a place of an inventory. -/
def stackAt? (items : List Item) : List Nat → Option Item
  | [] => none
  | position :: path => items[position]?.bind (·.within? path)

/-- The places of an inventory at which there is a stack, in the order of the places. -/
structure Preorder (items : List Item) (places : List (List Nat)) : Prop where
  ascending : places.Pairwise (· < ·)
  mem_iff : ∀ place, place ∈ places ↔ ∃ item, stackAt? items place = some item

mutual

/-- The ways down from a stack, the one to the stack itself first. -/
def paths : Item → List (List Nat)
  | ⟨_, _, _, contents⟩ => [] :: placesFrom 0 contents

/-- The places of some stacks, the first of which is at a position. -/
def placesFrom : Nat → List Item → List (List Nat)
  | _, [] => []
  | position, item :: items =>
    item.paths.map (position :: ·) ++ placesFrom (position + 1) items

end

theorem mem_placesFrom {items : List Item} {start : Nat} {place : List Nat} :
    place ∈ placesFrom start items ↔
      ∃ position item path, items[position]? = some item ∧ path ∈ item.paths ∧
        place = (start + position) :: path := by
  induction items generalizing start with
  | nil => simp [placesFrom]
  | cons first items ih =>
    rw [placesFrom, List.mem_append, List.mem_map, ih]
    constructor
    · rintro (⟨path, mem, rfl⟩ | ⟨position, item, path, found, mem, rfl⟩)
      · exact ⟨0, first, path, rfl, mem, rfl⟩
      · exact ⟨position + 1, item, path, found, mem, by rw [Nat.add_right_comm, Nat.add_assoc]⟩
    · rintro ⟨position, item, path, found, mem, rfl⟩
      cases position with
      | zero =>
        obtain rfl := Option.some.inj found
        exact .inl ⟨path, mem, rfl⟩
      | succ position =>
        exact .inr ⟨position, item, path, found, mem, by rw [Nat.add_right_comm, Nat.add_assoc]⟩

theorem cons_mem_placesFrom_zero {items : List Item} {position : Nat} {path : List Nat} :
    (position :: path) ∈ placesFrom 0 items ↔
      ∃ item, items[position]? = some item ∧ path ∈ item.paths := by
  rw [mem_placesFrom]
  constructor
  · rintro ⟨position, item, path, found, mem, same⟩
    obtain ⟨rfl, rfl⟩ := List.cons.inj same
    exact ⟨item, by rwa [Nat.zero_add], mem⟩
  · rintro ⟨item, found, mem⟩
    exact ⟨position, item, path, found, mem, by rw [Nat.zero_add]⟩

/-- The paths into an item are those at which there is a stack. -/
theorem mem_paths {path : List Nat} {item : Item} :
    path ∈ item.paths ↔ ∃ stack, item.within? path = some stack := by
  induction path generalizing item with
  | nil =>
    obtain ⟨type, category, count, contents⟩ := item
    exact iff_of_true (.head _) ⟨_, rfl⟩
  | cons position path ih =>
    obtain ⟨type, category, count, contents⟩ := item
    have below : (position :: path) ∈ paths ⟨type, category, count, contents⟩ ↔
        (position :: path) ∈ placesFrom 0 contents := by
      rw [paths, List.mem_cons, or_iff_right (List.cons_ne_nil _ _)]
    rw [below, cons_mem_placesFrom_zero]
    simp only [ih, within?, Option.bind_eq_some_iff]
    exact ⟨fun ⟨item, found, stack, down⟩ => ⟨stack, item, found, down⟩,
      fun ⟨stack, item, found, down⟩ => ⟨item, found, stack, down⟩⟩

mutual

/-- The paths into an item ascend in lexicographic order. -/
theorem pairwise_paths (item : Item) : item.paths.Pairwise (· < ·) := by
  match item with
  | ⟨type, category, count, contents⟩ =>
    rw [paths, List.pairwise_cons]
    refine ⟨fun place mem => ?_, pairwise_placesFrom 0 contents⟩
    obtain ⟨position, item, path, -, -, rfl⟩ := mem_placesFrom.1 mem
    exact List.nil_lt_cons _ _

/-- The places of an inventory ascend in lexicographic order. -/
theorem pairwise_placesFrom (start : Nat) (items : List Item) :
    (placesFrom start items).Pairwise (· < ·) := by
  match items with
  | [] => exact .nil
  | item :: items =>
    rw [placesFrom, List.pairwise_append, List.pairwise_map]
    refine ⟨?_, pairwise_placesFrom (start + 1) items, ?_⟩
    · exact (pairwise_paths item).imp fun less => List.cons_lt_cons_self.2 less
    · -- A place further to the right starts with a greater position.
      intro place mem place' mem'
      obtain ⟨path, -, rfl⟩ := List.mem_map.1 mem
      obtain ⟨position, item', path', -, -, rfl⟩ := mem_placesFrom.1 mem'
      exact List.cons_lt_cons_iff.2 (.inl (by omega))

end

mutual

/-- Following the paths in order lists the item with all that is in it. -/
theorem filterMap_paths (item : Item) : item.paths.filterMap item.within? = item.flatten := by
  match item with
  | ⟨type, category, count, contents⟩ =>
    have inner := filterMap_placesFrom [] contents
    rw [paths, flatten, List.filterMap_cons_some (within?.eq_1 _), ← inner]
    congr 1
    refine List.filterMap_congr fun place mem => ?_
    obtain ⟨position, item, path, -, -, rfl⟩ := mem_placesFrom.1 mem
    rfl

/-- Following the places in order lists the inventory with all that is in it. -/
theorem filterMap_placesFrom (before items : List Item) :
    (placesFrom before.length items).filterMap (stackAt? (before ++ items)) =
      flattenAll items := by
  match items with
  | [] => rfl
  | item :: items =>
    have found : (before ++ item :: items)[before.length]? = some item := by simp
    have rest := filterMap_placesFrom (before ++ [item]) items
    rw [List.length_append, List.length_singleton, List.append_assoc,
      List.singleton_append] at rest
    rw [placesFrom, flattenAll, List.filterMap_append, rest, List.filterMap_map,
      ← filterMap_paths item]
    congr 2
    funext path
    rw [Function.comp_apply, stackAt?, found, Option.bind_some]

end

/-- Pre-order goes through the stacks of an inventory in the order of their places, and meets the
stack at each place once. -/
theorem exists_preorder (items : List Item) :
    ∃ places, Preorder items places ∧ flattenAll items = places.filterMap (stackAt? items) := by
  refine ⟨placesFrom 0 items, ⟨pairwise_placesFrom 0 items, fun place => ?_⟩, ?_⟩
  · cases place with
    | nil =>
      refine iff_of_false (fun mem => ?_) nofun
      obtain ⟨_, _, _, _, _, same⟩ := mem_placesFrom.1 mem
      cases same
    | cons position path =>
      rw [cons_mem_placesFrom_zero]
      simp only [mem_paths, stackAt?, Option.bind_eq_some_iff]
      exact ⟨fun ⟨item, found, stack, down⟩ => ⟨stack, item, found, down⟩,
        fun ⟨stack, item, found, down⟩ => ⟨item, found, stack, down⟩⟩
  · exact (filterMap_placesFrom [] items).symm

end Item

end Parley
