import Parley.Failure

/-!
# Items

An inventory is a list of stacks, and a stack may contain further stacks. Counting walks the tree
in pre-order and stops at the greatest 32-bit integer; taking goes through it in the same order,
takes from each stack of the type what it has to give, and leaves no stack behind that is empty
in both senses.
-/

namespace Parley

/-- A stack of items of one type, with what it contains. -/
structure Item where
  type : String
  category : String
  count : Int32
  contents : List Item
deriving Inhabited

namespace Item

/-- A stack without contents. -/
def plain (type category : String) (count : Int32) : Item := ⟨type, category, count, []⟩

/-- Does the stack contain anything? -/
def isContainer (item : Item) : Bool := !item.contents.isEmpty

mutual

/-- A stack and all that it contains, in pre-order. -/
def flatten : Item → List Item
  | ⟨type, category, count, contents⟩ => ⟨type, category, count, contents⟩ :: flattenAll contents

/-- All stacks of an inventory, in pre-order. -/
def flattenAll : List Item → List Item
  | [] => []
  | item :: rest => item.flatten ++ flattenAll rest

end

/-- A stack comes before its contents, and both before the stacks that follow. -/
theorem flattenAll_cons (item : Item) (items : List Item) :
    flattenAll (item :: items) = item :: (flattenAll item.contents ++ flattenAll items) := by
  obtain ⟨type, category, count, contents⟩ := item
  rw [flattenAll, flatten, List.cons_append]

/-- What holds of every stack at any depth holds of the outer stacks and of all inside of them. -/
theorem forall_mem_flattenAll_iff {P : Item → Prop} {items : List Item} :
    (∀ stack ∈ flattenAll items, P stack) ↔
      ∀ item ∈ items, P item ∧ ∀ stack ∈ flattenAll item.contents, P stack := by
  induction items with
  | nil => simp [flattenAll]
  | cons item items ih =>
    rw [flattenAll_cons, List.forall_mem_cons, List.forall_mem_append, List.forall_mem_cons, ih,
      and_assoc]

/-- The number of items in the stacks that satisfy `p`, up to the greatest 32-bit integer. -/
def total (p : Item → Bool) (items : List Item) : Int32 :=
  (flattenAll items).foldl (fun sum item => if p item then add32 sum item.count else sum) 0

/-- The number of items of a type. -/
def countType (type : String) (items : List Item) : Int32 := total (·.type = type) items

/-- The number of items of a category. -/
def countCategory (category : String) (items : List Item) : Int32 :=
  total (·.category = category) items

/-- The category of a type: that of the first stack of the type that has one. -/
def categoryOf (type : String) (items : List Item) : String :=
  match (flattenAll items).find? fun item => item.type = type && item.category ≠ "" with
  | some item => item.category
  | none => ""

/-- Is there anything left of the stack? -/
def isKept (item : Item) : Bool := 0 < item.count || item.isContainer

/-- How many of up to `n` wanted items of a type a stack gives, leaving its contents aside. -/
def given (type : String) (n : Nat) (type' : String) (count : Int32) : Nat :=
  if type' = type then min n count.toInt.toNat else 0

theorem given_le_count (type : String) (n : Nat) (type' : String) (count : Int32) :
    given type n type' count ≤ count.toInt.toNat := by
  unfold given
  split <;> omega

/-- What is left of a number when no more than is there is given away. -/
def left (count : Int32) (n : Nat) (h : n ≤ count.toInt.toNat) : Int32 :=
  have := count.le_toInt
  have := count.toInt_lt
  .ofIntLE (count.toInt - n) (by rw [Int32.toInt_minValue]; omega)
    (by rw [Int32.toInt_maxValue]; omega)

mutual

/-- Take up to `n` items of a type from a stack and its contents; also say how many are still
wanted. -/
def take (type : String) (n : Nat) : Item → Item × Nat
  | ⟨type', category, count, contents⟩ =>
    let (contents, rest) := takeAll type (n - given type n type' count) contents
    (⟨type', category, left count (given type n type' count) (given_le_count type n type' count),
      contents.filter isKept⟩, rest)

/-- Take up to `n` items of a type from a list of stacks, front to back. -/
def takeAll (type : String) (n : Nat) : List Item → List Item × Nat
  | [] => ([], n)
  | item :: items =>
    if n = 0 then (item :: items, 0)
    else
      let (item, n) := take type n item
      let (items, n) := takeAll type n items
      (item :: items, n)

end

/-- The inventory without `n` items of a type. -/
def remove (type : String) (n : Nat) (items : List Item) : List Item :=
  (takeAll type n items).1.filter isKept

/-- Read a stack that is nested at most `depth` deep. -/
def readNested : Nat → Reader Item
  | 0 => fun _ => .error .invalidData
  | depth + 1 => Fields.read <|
    Item.mk <$> .required "type_id" .string
      <*> .orElse "category" .string ""
      <*> .orElse "count" .int32 1
      <*> .orElse "contents" (.list (readNested depth)) []

/-- Read a stack. -/
def reader : Reader Item := fun j => readNested j.depth j

end Item

end Parley
