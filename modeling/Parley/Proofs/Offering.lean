import Parley.Actor.Npc
import Parley.Actor.Player
import Parley.Proofs.Places
import Parley.Proofs.Steady

/-!
# What is visible is offered

Over conditions without ranges it can be said of a state alone what is visible in it: a response
whose condition comes to true, or that has none. Exactly those responses are offered, the repeat
responses for each item before the authored ones, save the switch responses that come after one
that has settled the switch.
-/

namespace Parley

/-- Is there no range in the conditions that say which responses of a topic are visible? -/
def Topic.visiblyRangeFree (t : Topic) : Bool :=
  t.responses.all (·.condition.all Condition.rangeFree) &&
    t.repeatResponses.all (·.response.condition.all Condition.rangeFree)

namespace Session

variable {α β : Type} [Actor α] [Actor β]

/-- In the state of a session nothing hides a response with the condition: there is none, or it
comes to true for the item. A condition that cannot be evaluated hides the response. -/
def Shows (s : Session α β) (condition : Option Condition) (item : Option String) : Prop :=
  ∀ c ∈ condition, ((c.evaluate s.scene item).run.run s.encounter.generator).1 = .ok true

instance (s : Session α β) (condition : Option Condition) (item : Option String) :
    Decidable (s.Shows condition item) :=
  match condition with
  | none => .isTrue nofun
  | some c =>
    match h : ((c.evaluate s.scene item).run.run s.encounter.generator).1 with
    | .ok true => .isTrue fun _ mem => Option.some.inj mem ▸ h
    | .ok false => .isFalse fun shows => by cases h.symm.trans (shows c rfl)
    | .error _ => .isFalse fun shows => by cases h.symm.trans (shows c rfl)

/-- The responses that a repeat response stands for: one for each item for which it is visible. -/
def repeats (s : Session α β) (r : RepeatResponse) : List Response :=
  ((candidates s.scene r).filter fun item => s.Shows r.response.condition (some item)).map
    (instantiate r.response)

variable {s : Session α β} {t : Topic}

/-- Without ranges a condition is decided by the state, whenever its turn comes. -/
theorem holds_of_rangeFree {condition : Option Condition}
    (free : condition.all Condition.rangeFree = true) (item : Option String) (g : Generator) :
    holds s.scene condition item g = (decide (s.Shows condition item), g) := by
  cases condition with
  | none =>
    have shows : s.Shows none item := nofun
    rw [decide_eq_true shows]
    rfl
  | some c =>
    have steady : (c.evaluate s.scene item).Steady := c.steady free
    obtain ⟨x, hx⟩ := steady
    have shows_iff : s.Shows (some c) item ↔ x = .ok true := by
      constructor
      · intro shows
        have value := shows c rfl
        rw [hx] at value
        exact value
      · rintro rfl _ mem
        obtain rfl := Option.some.inj mem
        rw [hx]
        rfl
    rw [holds, Condition.check, hx]
    match x, shows_iff with
    | .ok true, shows_iff =>
      rw [decide_eq_true (shows_iff.2 rfl)]
      rfl
    | .ok false, shows_iff | .error _, shows_iff =>
      rw [decide_eq_false (mt shows_iff.1 nofun)]
      rfl

/-- Without ranges, the items that are shown do not depend on chance. -/
theorem repeated_of_rangeFree {template : Response}
    (free : template.condition.all Condition.rangeFree = true) (items : List String)
    (g : Generator) :
    repeated s.scene template items g =
      ((items.filter fun item => s.Shows template.condition (some item)).map
        (instantiate template), g) := by
  induction items with
  | nil => rfl
  | cons item items ih =>
    rw [repeated_cons, holds_of_rangeFree free]
    dsimp only
    rw [ih, List.filter_cons]
    split <;> rfl

theorem repeatedAll_of_rangeFree {templates : List RepeatResponse}
    (free : ∀ r ∈ templates, r.response.condition.all Condition.rangeFree = true)
    (g : Generator) : repeatedAll s.scene templates g = (templates.flatMap s.repeats, g) := by
  induction templates with
  | nil => rfl
  | cons first rest ih =>
    rw [List.forall_mem_cons] at free
    rw [repeatedAll_cons, repeated_of_rangeFree free.1]
    dsimp only
    rw [ih free.2]
    rfl

/-- Without ranges, a place is fit if its condition holds. -/
theorem isFit_of_rangeFree
    (free : ∀ r ∈ t.responses, r.condition.all Condition.rangeFree = true) (place : Nat) :
    s.isFit t place = true ↔ ∃ r ∈ t.responses[place]?, s.Shows r.condition none := by
  rw [isFit, Option.any_eq_true]
  refine exists_congr fun r => and_congr_right fun hr => ?_
  rw [holds_of_rangeFree (free r (List.mem_of_getElem? hr)), decide_eq_true_eq]

/-- The places of the authored responses that are offered: those of the visible ones, save the
switch responses after one that has settled the switch. -/
structure Offering (s : Session α β) (t : Topic) (places : List Nat) : Prop where
  ascending : places.Pairwise (· < ·)
  mem_iff : ∀ i, i ∈ places ↔ ∃ r ∈ t.responses[i]?, s.Shows r.condition none ∧
    (r.switch = true → ∀ j ∈ places, j < i → t.settlesAt j = false)

namespace Offering

variable {places : List Nat}

/-- After a response that settles the switch no switch response is offered, be it a default. -/
theorem switchAt_of_settlesAt (h : s.Offering t places) {i j : Nat} (hi : i ∈ places)
    (hj : j ∈ places) (less : i < j) (settles : t.settlesAt i = true) :
    t.switchAt j = false := by
  obtain ⟨r, hr, -, still⟩ := (h.mem_iff j).1 hj
  rw [Topic.switchAt_eq hr, ← Bool.not_eq_true]
  intro switch
  have closed := still switch i hi less
  rw [settles] at closed
  contradiction

/-- At most one response that settles the switch is offered. -/
theorem eq_of_settlesAt (h : s.Offering t places) {i j : Nat} (hi : i ∈ places)
    (hj : j ∈ places) (settles : t.settlesAt i = true) (settles' : t.settlesAt j = true) :
    i = j := by
  have one_side {i j : Nat} (hi : i ∈ places) (hj : j ∈ places) (settles : t.settlesAt i = true)
      (settles' : t.settlesAt j = true) : ¬i < j := by
    intro less
    have switch := Topic.switchAt_of_settlesAt settles'
    rw [h.switchAt_of_settlesAt hi hj less settles] at switch
    contradiction
  exact Nat.le_antisymm (Nat.not_lt.1 (one_side hj hi settles' settles))
    (Nat.not_lt.1 (one_side hi hj settles settles'))

end Offering

/-- The places that are offered are an offering of the topic. -/
theorem offering_offeredPlaces
    (free : ∀ r ∈ t.responses, r.condition.all Condition.rangeFree = true) :
    s.Offering t (s.offeredPlaces t) := by
  refine ⟨s.pairwise_offeredPlaces t, fun i => ?_⟩
  rw [mem_offeredPlaces, isOffered_iff, isFit_of_rangeFree free]
  constructor
  · rintro ⟨⟨r, hr, shows⟩, still⟩
    refine ⟨r, hr, shows, fun switch j hj less => ?_⟩
    exact still ((Topic.switchAt_eq hr).trans switch) j less ((s.mem_offeredPlaces t).1 hj)
  · rintro ⟨r, hr, shows, still⟩
    refine ⟨⟨r, hr, shows⟩, fun switch j less offered => ?_⟩
    rw [Topic.switchAt_eq hr] at switch
    exact still switch j ((s.mem_offeredPlaces t).2 offered) less

/-- Of a topic whose conditions of visibility have no ranges exactly the visible responses are
offered: the repeat responses for each of their items, then the authored responses at their places,
save the switch responses after one that settles the switch, of which there is at most one. The
farewell comes last, unless the topic does without it and something else is offered; where the
topic is not known, it is all there is. -/
theorem offers_what_is_visible (s : Session α β)
    (free : ∀ t ∈ s.topic?, t.visiblyRangeFree = true) :
    (s.topic? = none → s.generate.responses = [s.farewell]) ∧
      (∀ t ∈ s.topic?, ∃ places, s.Offering t places ∧
        s.generate.responses =
          s.withFarewell t (t.repeatResponses.flatMap s.repeats ++ t.responsesAt places) ∧
        (∀ i ∈ places, ∀ j ∈ places, t.settlesAt i = true → t.settlesAt j = true → i = j) ∧
        ∀ i ∈ places, ∀ j ∈ places, i < j → t.settlesAt i = true → t.switchAt j = false) ∧
      s.generate.responses ≠ [] := by
  refine ⟨s.generate_of_topic?_eq_none, fun t known => ?_, s.generate_ne_nil⟩
  have freely := free t known
  simp only [Topic.visiblyRangeFree, Bool.and_eq_true, List.all_eq_true] at freely
  have offering := offering_offeredPlaces (s := s) freely.1
  have all := s.generate_of_topic?_eq_some (Option.mem_def.1 known)
  rw [repeatedAll_of_rangeFree freely.2] at all
  refine ⟨s.offeredPlaces t, offering, all, ?_, ?_⟩
  · exact fun i hi j hj => offering.eq_of_settlesAt hi hj
  · exact fun i hi j hj => offering.switchAt_of_settlesAt hi hj

/-- An offer for the rope but not for the lamp, a default before a response settles the switch but
none after, nothing where the count is no number, and no farewell beside all that. -/
theorem settled_switch_offers :
    let count : IntRef := .single (.stored ⟨.global, "count"⟩ 0)
    let few : Condition := .compareInt count .lt (.single (.literal 5))
    let trade : RepeatResponse :=
      { forItem := ["lamp", "rope"], forCategory := [], isNpc := false, includeContainers := false
        response := { text := "Want a <topic_item>?", condition := some (.topicItemIs "rope") } }
    let topic : Topic :=
      { id := "TALK", replace? := some true, repeatResponses := [trade]
        responses := [{ text := "Perhaps.", switch := true, default := true },
          { text := "So few?", switch := true, condition := some few },
          { text := "Yes.", switch := true }, { text := "No.", switch := true, default := true },
          { text := "Never.", switch := true }, { text := "Wait." }] }
    let u : Player := .ofSheet
      { Sheet.new "Bob" with inventory := [.plain "rope" "" 1, .plain "lamp" "" 1] }
    let s : Session Player Npc := start u (.ofSheet (.new "Ann")) (.insert .empty "count" "many")
      (Registry.empty.insertAll [topic]) { firstTopic := "TALK" } 0
    (∀ t ∈ s.topic?, t.visiblyRangeFree = true) ∧ s.topic? = some topic ∧
      (∃ places, s.Offering topic places ∧ s.generate.responses = s.withFarewell topic
        (topic.repeatResponses.flatMap s.repeats ++ topic.responsesAt places)) ∧
      s.generate.responses.map (·.text) = ["Want a rope?", "Perhaps.", "Yes.", "Wait."] := by
  intro count few trade topic u s
  have known : s.topic? = some topic := rfl
  have free : ∀ t ∈ s.topic?, t.visiblyRangeFree = true := by
    rintro t mem
    obtain rfl := Option.some.inj (known.symm.trans mem)
    decide +kernel
  obtain ⟨-, offered, -⟩ := offers_what_is_visible s free
  obtain ⟨places, offering, all, -⟩ := offered topic known
  exact ⟨free, known, ⟨places, offering, all⟩, by decide +kernel⟩

end Session

end Parley
