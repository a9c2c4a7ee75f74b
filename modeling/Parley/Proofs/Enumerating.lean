import Parley.Proofs.Offering
import Parley.Proofs.Preorder

/-!
# What a repeat response stands for

A repeat response names types of items and categories. It stands for the types of which its owner
has any, as they are listed, and then for the stacks of the categories, as they are met in
pre-order; containers are left out unless they are asked for. One response is offered for each of
these items for which the template is visible.
-/

namespace Parley

/-- The actor whose items a repeat response is about. -/
def RepeatResponse.owner (r : RepeatResponse) : Target := if r.isNpc then .npc else .u

namespace Session

variable {α β : Type} [Actor α] [Actor β]

/-- The candidates of a repeat response are the listed items that are there, and then the stacks of
the listed categories. -/
theorem candidates_eq (scene : Scene α β) (r : RepeatResponse) :
    candidates scene r =
      r.forItem.filter (0 < Item.countType · (scene.ask r.owner Actor.inventory)) ++
        ((Item.flattenAll (scene.ask r.owner Actor.inventory)).filter fun stack =>
          stack.category ∈ r.forCategory ∧ (r.includeContainers = true ∨ stack.contents = [])).map
          (·.type) := by
  have chosen (stack : Item) :
      (r.forCategory.contains stack.category && (r.includeContainers || !stack.isContainer)) =
        decide (stack.category ∈ r.forCategory ∧
          (r.includeContainers = true ∨ stack.contents = [])) := by
    rw [Bool.eq_iff_iff]
    simp [Item.isContainer]
  simp only [candidates, chosen]
  rw [RepeatResponse.owner]
  cases r.isNpc <;> rfl

/-- Repeat responses are gone through in order, each with the generator that the one before has
left. -/
theorem repeatedAll_append (scene : Scene α β) (first rest : List RepeatResponse)
    (g : Generator) :
    repeatedAll scene (first ++ rest) g =
      let before := repeatedAll scene first g
      let after := repeatedAll scene rest before.2
      (before.1 ++ after.1, after.2) := by
  induction first generalizing g with
  | nil => rfl
  | cons r first ih =>
    rw [List.cons_append, repeatedAll_cons, repeatedAll_cons]
    dsimp only
    rw [ih]
    simp only [List.append_assoc]

/-- A repeat response whose template has no ranges in its condition stands for the listed types of
which the owner has a positive number, in the order of the list, and then for the types of the
stacks of its categories, in the order of their places, that is in pre-order; stacks with contents
are among them only if they are asked for. For each of these items for which the condition of the
template comes to true, or that has none, there is one response, in this order; they are offered
after the responses of the repeat responses before it, and before all else. -/
theorem enumerates_items (s : Session α β) (r : RepeatResponse)
    (free : r.response.condition.all Condition.rangeFree = true) :
    let inventory := s.scene.ask r.owner Actor.inventory
    ∃ places, Item.Preorder inventory places ∧
      let owned := r.forItem.filter (0 < Item.countType · inventory)
      let found := (places.filterMap (Item.stackAt? inventory)).filter fun stack =>
        stack.category ∈ r.forCategory ∧ (r.includeContainers = true ∨ stack.contents = [])
      let passing := (owned ++ found.map (·.type)).filter fun item =>
        s.Shows r.response.condition (some item)
      let responses := passing.map (instantiate r.response)
      responses.map (·.item) = passing.map some ∧
        (∀ g, repeated s.scene r.response (candidates s.scene r) g = (responses, g)) ∧
        ∀ t ∈ s.topic?, ∀ before after, t.repeatResponses = before ++ r :: after →
          let first := repeatedAll s.scene before s.encounter.generator
          s.generate.responses = s.withFarewell t (first.1 ++ responses ++
            (repeatedAll s.scene after first.2).1 ++ t.responsesAt (s.offeredPlaces t)) := by
  intro inventory
  obtain ⟨places, preorder, walk⟩ := Item.exists_preorder inventory
  refine ⟨places, preorder, ?_⟩
  intro owned found passing responses
  have candidates_eq : candidates s.scene r = owned ++ found.map (·.type) := by
    rw [candidates_eq, walk]
  have generated (g : Generator) :
      repeated s.scene r.response (candidates s.scene r) g = (responses, g) := by
    rw [candidates_eq]
    exact repeated_of_rangeFree free _ g
  refine ⟨List.map_map, generated, fun t known before after parts => ?_⟩
  intro first
  have all := s.generate_of_topic?_eq_some (Option.mem_def.1 known)
  rw [parts, repeatedAll_append] at all
  dsimp only at all
  rw [repeatedAll_cons] at all
  dsimp only at all
  rw [generated] at all
  simpa only [List.append_assoc] using all

/-- The gum that is listed is missing and the cheese is there. What is in the tin is offered and
the tin is not; no bread is offered, for it is not asked about. -/
theorem nested_food_enumerated :
    let tin : Item := ⟨"tin", "food", 1,
      [.plain "jerky" "food" 3, ⟨"pouch", "gear", 1, [.plain "salt" "food" 1]⟩]⟩
    let pack : Item :=
      ⟨"pack", "gear", 1, [.plain "apple" "food" 2, tin, .plain "bread" "food" 1]⟩
    let trade : RepeatResponse :=
      { forItem := ["gum", "cheese"], forCategory := ["food"], isNpc := false
        includeContainers := false
        response :=
          { text := "Want some <topic_item>?", condition := some (.not (.topicItemIs "bread")) } }
    let topic : Topic := { id := "TALK", replace? := some true, repeatResponses := [trade] }
    let u : Player :=
      .ofSheet { Sheet.new "Bob" with inventory := [pack, .plain "cheese" "food" 1] }
    let s : Session Player Npc := start u (.ofSheet (.new "Ann")) .empty
      (Registry.empty.insertAll [topic]) { firstTopic := "TALK" } 0
    trade.response.condition.all Condition.rangeFree = true ∧
      (∃ responses,
        (∀ g, repeated s.scene trade.response (candidates s.scene trade) g = (responses, g)) ∧
        responses.map (·.item) = ["cheese", "apple", "jerky", "salt", "cheese"].map some) ∧
      s.generate.responses.map (·.item) =
        ["cheese", "apple", "jerky", "salt", "cheese"].map some := by
  intro tin pack trade topic u s
  have free : trade.response.condition.all Condition.rangeFree = true := by decide +kernel
  have items : (repeated s.scene trade.response (candidates s.scene trade) (.ofSeed 0)).1.map
      (·.item) = ["cheese", "apple", "jerky", "salt", "cheese"].map some := by
    decide +kernel
  obtain ⟨responses, generated⟩ : ∃ responses,
      ∀ g, repeated s.scene trade.response (candidates s.scene trade) g = (responses, g) := by
    obtain ⟨places, -, -, generated, -⟩ := enumerates_items s trade free
    exact ⟨_, generated⟩
  rw [generated] at items
  exact ⟨free, ⟨responses, generated, items⟩, by decide +kernel⟩

end Session

end Parley
