import Parley.Proofs.Shown
import Parley.Proofs.Visible

/-!
# What a repeat response is about

A repeat response stands for one item after the other. Whether it is visible for an item is decided
as if the topic were about the item, and the item is named in its text. Its other parts know nothing
of the item: a text that depends on a condition, and a trial that a condition decides, are worked
out for what the topic is about.
-/

namespace Parley

namespace Condition

mutual

/-- Does a condition ask which item is talked about, at any depth? -/
def asksItem : Condition → Bool
  | .topicItemIs _ | .hasTopicItem => true
  | .and all => anyAsksItem all
  | .or any => anyAsksItem any
  | .not inner => inner.asksItem
  | _ => false

/-- Does any of some conditions ask which item is talked about? -/
def anyAsksItem : List Condition → Bool
  | [] => false
  | c :: rest => c.asksItem || anyAsksItem rest

end

end Condition

/-- Is a trial decided by a condition that asks which item is talked about? -/
def Trial.asksItem (t : Trial) : Bool :=
  t.kind = .condition && t.condition.any Condition.asksItem

variable {α β : Type} {s : Scene α β} {item : String}

/-- The scene as if the topic were about an item. -/
def Scene.about (s : Scene α β) (item : String) : Scene α β :=
  { s with current := { s.current with item := some item } }

theorem Scene.about_of_current (h : s.current.item = some item) : s.about item = s := by
  rw [about, ← h]

variable [Actor α] [Actor β]

theorem IntRef.evaluate_about (ref : IntRef) : ref.evaluate (s.about item) = ref.evaluate s := by
  cases ref <;> rfl

/-- No formula asks what the topic is about. -/
theorem Formula.evaluate_about (f : Formula) : f.evaluate (s.about item) = f.evaluate s :=
  f.evaluate_congr IntRef.evaluate_about

namespace Condition

/-- For a candidate item a condition comes to what it comes to when the topic is about it. -/
theorem evaluate_about (c : Condition) :
    c.evaluate (s.about item) none = c.evaluate s (some item) := by
  cases c with
  | and all => exact evaluateAll_congr fun c _ => c.evaluate_about
  | or any => exact evaluateAny_congr fun c _ => c.evaluate_about
  | not inner => simp only [evaluate, evaluate_about inner]
  | math lhs op rhs => simp only [evaluate, Formula.evaluate_about]
  | _ => rfl

theorem anyAsksItem_eq_false {cs : List Condition} :
    anyAsksItem cs = false ↔ ∀ c ∈ cs, c.asksItem = false := by
  induction cs with
  | nil => exact iff_of_true rfl (List.forall_mem_nil _)
  | cons c rest ih => rw [anyAsksItem, Bool.or_eq_false_iff, ih, List.forall_mem_cons]

/-- Where it is not asked which item is talked about, a candidate makes no difference. -/
theorem evaluate_of_not_asksItem {candidate candidate' : Option String} {c : Condition}
    (h : c.asksItem = false) : c.evaluate s candidate = c.evaluate s candidate' := by
  cases c with
  | and all =>
    exact evaluateAll_congr fun c mem =>
      evaluate_of_not_asksItem (anyAsksItem_eq_false.1 h c mem)
  | or any =>
    exact evaluateAny_congr fun c mem =>
      evaluate_of_not_asksItem (anyAsksItem_eq_false.1 h c mem)
  | not inner =>
    have same : inner.evaluate s candidate = inner.evaluate s candidate' :=
      evaluate_of_not_asksItem h
    simp only [evaluate, same]
  | topicItemIs | hasTopicItem => cases h
  | _ => rfl

/-- Asking about an item in passing is asking in a topic about that item. -/
theorem check_about (c : Condition) : c.check (s.about item) none = c.check s (some item) := by
  unfold check
  rw [evaluate_about]

/-- Who does not ask what the topic is about is not told. -/
theorem check_about_of_not_asksItem {c : Condition} (h : c.asksItem = false) :
    c.check (s.about item) none = c.check s none := by
  rw [check_about]
  unfold check
  rw [evaluate_of_not_asksItem h]

end Condition

/-- The chance of a trial that does not ask about the item does not depend on it. -/
theorem Trial.chance_about_of_not_asksItem {t : Trial} (h : t.asksItem = false) :
    t.chance (s.about item) = t.chance s := by
  rw [Trial.asksItem, Bool.and_eq_false_imp, decide_eq_true_eq] at h
  unfold chance
  cases hk : t.kind with
  | none | social | skillCheck => rfl
  | condition =>
    cases hc : t.condition with
    | none => rfl
    | some c =>
      have asks := h hk
      rw [hc, Option.any_some] at asks
      simp only [Condition.check_about_of_not_asksItem asks]
      rfl

namespace Session

theorem holds_about (c : Option Condition) :
    holds (s.about item) c none = holds s c (some item) := by
  cases c with
  | none => rfl
  | some c => exact c.check_about

/-- The text of the response for an item is that of the template with the item named in it, or one
that does not name the item and is chosen for what the topic is about. -/
theorem displayText_instantiate (template : Response) (item : String) (g : Generator) :
    ((instantiate template item).displayText s g).1 = match template.choice with
      | none => Text.replace "<topic_item>" item template.text
      | some choice =>
        if (choice.condition.check s none g).1 then choice.ifTrue else choice.ifFalse := by
  unfold Response.displayText
  cases hc : template.choice with
  | none =>
    have plain : (instantiate template item).choice = none := hc
    rw [plain]
    rfl
  | some choice =>
    have chosen : (instantiate template item).choice = some choice := hc
    rw [chosen]
    dsimp only
    rw [draw_bind]
    split <;> rfl

/-- Let a repeat response be on offer for an item. Whether it is offered is decided as if the topic
were about the item, and where its text does not depend on a condition the item stands for every tag
of the template. A text that depends on a condition is chosen, and its tags are replaced, for what
the topic is about, and so is its trial decided, when it is shown and when it is rolled for. Chosen
and decided as if the topic were about the item they come to the same where the topic is about it,
or the condition does not ask which item is talked about. -/
theorem repeat_response_parts [Actor.Discreet β] (s : Session α β) {template : Response}
    {item : String} {index : Nat}
    (on_offer : s.responses[index]? = some (instantiate template item)) (g g' : Generator) :
    let scene := s.scene
    let own := scene.about item
    (∀ (scene : Scene α β) (g : Generator), (repeated scene template [item] g).1 =
        if (holds (scene.about item) template.condition none g).1 then [instantiate template item]
        else []) ∧
      (∃ shown g₁ g₂ g₃, (s.withGenerator g).offers.1[index]? = some shown ∧
        shown.highlight = .ofConsequences
          ((template.considered (template.trial.chance scene g₁).1).map
            (·.consequence scene.npc)) ∧
        shown.text = (template.trial.decorate scene (scene.substitute (match template.choice with
          | none => Text.replace "<topic_item>" item template.text
          | some choice =>
            if (choice.condition.check scene none g₂).1 then choice.ifTrue
            else choice.ifFalse)) g₃).1) ∧
      ((s.withGenerator g').resolve (instantiate template item)).1.chance =
        (template.trial.chance scene g').1 ∧
      (∀ choice ∈ template.choice,
        choice.condition.asksItem = false ∨ scene.current.item = some item →
          choice.condition.check own none = choice.condition.check scene none) ∧
      (template.trial.asksItem = false ∨ scene.current.item = some item →
        template.trial.chance own = template.trial.chance scene) ∧
      (scene.current.item = some item → own.substitute = scene.substitute) := by
  intro scene own
  have settled (here : scene.current.item = some item) : own = scene :=
    Scene.about_of_current here
  refine ⟨fun scene g => ?_, ?_, ?_, fun choice _ same => ?_, fun same => ?_, fun same => ?_⟩
  · rw [repeated_cons, holds_about]
    rfl
  · obtain ⟨g₁, shown⟩ : ∃ g₁, (offersFrom scene 0 s.responses g).1[index]? =
        some (offer scene (0 + index) (instantiate template item) g₁).1 :=
      getElem?_offersFrom on_offer 0 g
    let r := instantiate template item
    -- The chance is worked out first, and the text with the generator that it leaves.
    let g₂ := (template.trial.chance scene g₁).2
    refine ⟨_, g₁, g₂, (r.displayText scene g₂).2, shown, ?_, ?_⟩
    · rw [← template.consequences_eq]
      rfl
    · rw [← displayText_instantiate]
      rfl
  · have rolled := Trial.roll_chance (s := note (instantiate template item) s.scene)
      template.trial g'
    rw [chance_note] at rolled
    exact rolled
  · rcases same with blind | here
    · exact Condition.check_about_of_not_asksItem blind
    · rw [settled here]
  · rcases same with blind | here
    · exact Trial.chance_about_of_not_asksItem blind
    · rw [settled here]
  · rw [settled same]

/-- Where neither the text nor the trial depends on a condition, the rope is offered by name. -/
theorem rope_offered_by_name :
    let trade : RepeatResponse :=
      { forItem := ["rope"], forCategory := [], isNpc := false, includeContainers := false
        response :=
          { text := "Take my <topic_item>, <npc_name>.", condition := some (.topicItemIs "rope") } }
    let topic : Topic := { id := "TALK", replace? := some true, repeatResponses := [trade] }
    let u : Player :=
      .ofSheet { Sheet.new "Bob" with inventory := [.plain "rope" "tools" 1] }
    let s : Session Player Npc := (start u (.ofSheet (.new "Ann")) .empty
      (Registry.empty.insertAll [topic]) { firstTopic := "TALK" } 0).generate
    s.responses[0]? = some (instantiate trade.response "rope") ∧
      (∃ shown, (s.withGenerator (.ofSeed 1)).offers.1[0]? = some shown ∧
        shown.text = "Take my rope, Ann.") ∧
      trade.response.trial.chance (s.scene.about "rope") = trade.response.trial.chance s.scene := by
  intro trade topic u s
  have on_offer : s.responses[0]? = some (instantiate trade.response "rope") := by rfl
  obtain ⟨-, ⟨shown, g₁, g₂, g₃, offered, -, text⟩, -, -, chance, -⟩ :=
    repeat_response_parts s on_offer (.ofSeed 1) (.ofSeed 2)
  refine ⟨on_offer, ⟨shown, offered, text.trans ?_⟩, chance (.inl rfl)⟩
  change s.scene.substitute (Text.replace "<topic_item>" "rope" trade.response.text) = _
  decide +kernel

/-- Both responses are offered because it is the rope that is talked about. The one is shown with
the text for when it is not, and names nothing; the other fails because it is not. -/
theorem rope_talked_about_and_not :
    let asks : Condition := .topicItemIs "rope"
    let session (template : Response) : Session Player Npc :=
      let trade : RepeatResponse :=
        { forItem := ["rope"], forCategory := [], isNpc := false, includeContainers := false
          response := { template with condition := some asks } }
      let topic : Topic := { id := "TALK", replace? := some true, repeatResponses := [trade] }
      let u : Player :=
        .ofSheet { Sheet.new "Bob" with inventory := [.plain "rope" "tools" 1] }
      (start u (.ofSheet (.new "Ann")) .empty (Registry.empty.insertAll [topic])
        { firstTopic := "TALK" } 0).generate
    let choice : Response :=
      { text := "", choice := some ⟨asks, "Take my <topic_item>.", "Take this <topic_item>."⟩ }
    let gamble : Response :=
      { text := "Take my <topic_item>.", trial := { kind := .condition, condition := some asks } }
    ((session choice).responses.map (·.item) = [some "rope"] ∧
        (session choice).offers.1.map (·.text) = ["Take this ."]) ∧
      (session gamble).responses.map (·.item) = [some "rope"] ∧
        ((session gamble).select 0).2.lastTrial = some ⟨false, 0, false⟩ := by
  decide +kernel

end Session

end Parley
