import Parley.Proofs.Enumerating
import Parley.Proofs.Removal

/-!
# Is what is offered owned?

The items that a repeat response lists are looked for in the inventory of its owner; of the stacks
of its categories it is not asked whether there is anything in them. As long as all inventories are
tidy, which no operation changes, a stack without items stays for its contents only, so that it can
be offered only where containers are asked for.
-/

namespace Parley

namespace Item

/-- No item of the type is left: its stacks are used up and stay for their contents. -/
def UsedUp (type : String) (items : List Item) : Prop :=
  ∀ stack ∈ flattenAll items, stack.type = type → stack.count = 0 ∧ stack.contents ≠ []

variable {type : String} {items : List Item}

/-- There are units of a type where a stack of that type is not used up. -/
theorem units_pos_iff :
    0 < units type items ↔ ∃ stack ∈ flattenAll items, stack.type = type ∧ 0 < stack.count := by
  have size (stack : Item) : 0 < stack.lot.size ↔ 0 < stack.count := by
    rw [Int32.lt_iff_toInt_lt, Int32.toInt_zero]
    exact Int.lt_toNat
  rw [units_eq_flattenAll, Lot.units_pos_iff]
  simp only [List.mem_map, exists_exists_and_eq_and, size]
  rfl

/-- What is counted of a tidy inventory is something if some stack has something. -/
theorem countType_pos_iff (tidy : Tidy items) :
    0 < countType type items ↔
      ∃ stack ∈ flattenAll items, stack.type = type ∧ 0 < stack.count := by
  have free : owed type items = 0 :=
    debts_eq_zero_iff.2 fun stack mem => debt_eq_zero type (tidy stack mem).nonneg
  have count := countType_of_owed_eq_zero free
  rw [← units_pos_iff, Int32.lt_iff_toInt_lt, Int32.toInt_zero]
  rw [Int32.toInt_maxValue] at count
  omega

theorem not_usedUp_of_pos {stack : Item} (mem : stack ∈ flattenAll items)
    (some : 0 < stack.count) : ¬UsedUp stack.type items := by
  intro used
  rw [(used stack mem rfl).1] at some
  exact Int32.lt_irrefl some

/-- In a tidy inventory without units of a type, all stacks of the type are used up. -/
theorem usedUp_of_none (tidy : Tidy items) (none : ¬0 < countType type items) :
    UsedUp type items := by
  rintro stack mem rfl
  refine (tidy stack mem).resolve_left fun some => none ?_
  exact (countType_pos_iff tidy).2 ⟨stack, mem, rfl, some⟩

end Item

namespace Session

section

variable {α β : Type} [Actor α] [Actor β]

theorem ask_hasItem (scene : Scene α β) (t : Target) (item : String) :
    scene.ask t (Actor.hasItem · item) =
      decide (0 < Item.countType item (scene.ask t Actor.inventory)) := by
  cases t <;> rfl

/-- An item for which a repeat response stands is missing only where containers are asked for and
the stacks of the item are used up. -/
theorem hasItem_candidate_iff {scene : Scene α β} {r : RepeatResponse} {item : String}
    (tidy : Item.Tidy (scene.ask r.owner Actor.inventory)) (mem : item ∈ candidates scene r) :
    scene.ask r.owner (Actor.hasItem · item) = true ↔ ¬(r.includeContainers = true ∧
      Item.UsedUp item (scene.ask r.owner Actor.inventory)) := by
  rw [candidates_eq, List.mem_append] at mem
  rw [ask_hasItem, decide_eq_true_eq]
  constructor
  · rintro owned ⟨-, used⟩
    obtain ⟨stack, there, rfl, some⟩ := (Item.countType_pos_iff tidy).1 owned
    exact Item.not_usedUp_of_pos there some used
  · intro kept
    by_contra none
    -- The listed items were counted; the stacks of a category were only met.
    rcases mem with listed | found
    · obtain ⟨-, some⟩ := List.mem_filter.1 listed
      exact none (decide_eq_true_eq.mp some)
    · obtain ⟨stack, chosen, rfl⟩ := List.mem_map.1 found
      obtain ⟨mem, chosen⟩ := List.mem_filter.1 chosen
      obtain ⟨-, asked⟩ := decide_eq_true_eq.mp chosen
      have used := Item.usedUp_of_none tidy none
      exact kept ⟨asked.resolve_right (used stack mem rfl).2, used⟩

end

variable {α β : Type} [Actor α] [Actor β] [Actor.InMemory α] [Actor.InMemory β]

/-- No operation on a session leaves an empty stack in an inventory, if there was none. -/
theorem tidy_performAll (s : Session α β) (ops : List Operation)
    (start : ∀ t, Item.Tidy (s.scene.ask t Actor.inventory)) (t : Target) :
    Item.Tidy ((performAll ops s).scene.ask t Actor.inventory) := by
  have kept (t : Target) [Scene.Side α β t] (tidy : Item.Tidy (s.scene.sheet t).inventory) :
      Item.Tidy ((performAll ops s).scene.sheet t).inventory :=
    (s.moves_performAll ops).preserves (P := fun scene => Item.Tidy (scene.sheet t).inventory)
      (fun moved tidy => moved.preserves_sheet EffectKind.Alters.tidy tidy) tidy
  cases t with
  | u =>
    have tidy := start .u
    rw [Scene.ask, Actor.inventory_eq] at tidy ⊢
    exact kept .u tidy
  | npc =>
    have tidy := start .npc
    rw [Scene.ask, Actor.inventory_eq] at tidy ⊢
    exact kept .npc tidy

/-- Let all stacks of two actors kept in memory have something in them at first. Whatever is done
then, the repeat responses that are offered carry items for which a repeat response of the topic
stands, and its owner has such an item, unless the repeat response asks for containers and the
stacks of the item are used up and stay for their contents. -/
theorem offered_item_owned_iff (s : Session α β)
    (start : ∀ t, ∀ stack ∈ Item.flattenAll (s.scene.ask t Actor.inventory), 0 < stack.count)
    (ops : List Operation) :
    let s := performAll ops s
    ∀ t ∈ s.topic?,
      let repeats := (repeatedAll s.scene t.repeatResponses s.encounter.generator).1
      s.generate.responses =
          s.withFarewell t (repeats ++ t.responsesAt (s.offeredPlaces t)) ∧
        (∀ offered ∈ repeats, ∃ r ∈ t.repeatResponses, ∃ item ∈ candidates s.scene r,
          offered = instantiate r.response item) ∧
        ∀ r ∈ t.repeatResponses, ∀ item ∈ candidates s.scene r,
          (s.scene.ask r.owner (Actor.hasItem · item) = true ↔
            ¬(r.includeContainers = true ∧
              Item.UsedUp item (s.scene.ask r.owner Actor.inventory))) := by
  intro s' t known repeats
  have tidy := tidy_performAll s ops fun t stack mem => .inl (start t stack mem)
  refine ⟨s'.generate_of_topic?_eq_some known, fun offered mem => mem_repeatedAll mem, ?_⟩
  intro r _ item mem
  exact hasItem_candidate_iff (tidy r.owner) mem

/-- When the purse is used up, the coins in it are offered all the same, and they are there. -/
theorem coins_of_used_up_purse_owned :
    let purse : Item := ⟨"purse", "bag", 1, [.plain "coin" "money" 2]⟩
    let trade : RepeatResponse :=
      { forItem := ["rope"], forCategory := ["bag", "money"], isNpc := true
        includeContainers := false, response := { text := "Give me the <topic_item>." } }
    let topic : Topic := { id := "TALK", replace? := some true, repeatResponses := [trade] }
    let npc : Npc :=
      .ofSheet { Sheet.new "Ann" with inventory := [purse, .plain "rope" "tools" 1] }
    let s : Session Player Npc := start (.ofSheet (.new "Bob")) npc .empty
      (Registry.empty.insertAll [topic]) { firstTopic := "TALK" } 0
    let ops : List Operation :=
      [.attempt ⟨.consumeItem "purse" (.single (.literal 1)), .npc⟩, .generate]
    (∀ t, ∀ stack ∈ Item.flattenAll (s.scene.ask t Actor.inventory), 0 < stack.count) ∧
      (performAll ops s).responses.map (·.item) = [some "rope", some "coin"] ∧
      Actor.hasItem (performAll ops s).scene.npc "purse" = false ∧
      ∀ item ∈ ["rope", "coin"],
        (performAll ops s).scene.ask trade.owner (Actor.hasItem · item) = true := by
  intro purse trade topic npc s ops
  have filled : ∀ t, ∀ stack ∈ Item.flattenAll (s.scene.ask t Actor.inventory),
      0 < stack.count := by
    rintro (_ | _) <;> decide +kernel
  have known : (performAll ops s).topic? = some topic := by rfl
  obtain ⟨-, -, owned_iff⟩ := offered_item_owned_iff s filled ops topic known
  refine ⟨filled, by decide +kernel, by decide +kernel, fun item mem => ?_⟩
  have offered : item ∈ candidates (performAll ops s).scene trade := by
    revert item
    decide +kernel
  exact (owned_iff trade (.head _) item offered).2 nofun

/-- A sack that is used up stays for the coins in it, and is offered though none is left. -/
theorem used_up_sack_offered :
    let sack : Item := ⟨"sack", "bag", 1, [.plain "coin" "money" 2]⟩
    let trade : RepeatResponse :=
      { forItem := [], forCategory := ["bag"], isNpc := false, includeContainers := true
        response := { text := "Take my <topic_item>." } }
    let topic : Topic := { id := "TALK", replace? := some true, repeatResponses := [trade] }
    let u : Player := .ofSheet { Sheet.new "Bob" with inventory := [sack] }
    let s : Session Player Npc := start u (.ofSheet (.new "Ann")) .empty
      (Registry.empty.insertAll [topic]) { firstTopic := "TALK" } 0
    let ops : List Operation :=
      [.attempt ⟨.consumeItem "sack" (.single (.literal 1)), .u⟩, .generate]
    (∀ t, ∀ stack ∈ Item.flattenAll (s.scene.ask t Actor.inventory), 0 < stack.count) ∧
      (performAll ops s).responses.map (·.item) = [some "sack"] ∧
      Actor.hasItem (performAll ops s).scene.u "sack" = false := by
  intro sack trade topic u s ops
  refine ⟨?_, by decide +kernel, by decide +kernel⟩
  rintro (_ | _) <;> decide +kernel

end Session

end Parley
