import Parley.Proofs.CheckedTrial
import Parley.Proofs.Operation
import Parley.Proofs.SameLook
import Parley.Proofs.Steady

/-!
# What is shown is what is rolled

The chance of a trial is worked out three times: for the text of the offer, for its warning, and
when the response is chosen. All three agree, unless a range decides: a chance is not drawn, the
draws of other offers do not change it, and neither does noting what the response asks for. The
outcome that is applied is one of those of which the offer warned.
-/

namespace Parley

/-! ### Numbers from 0 to 99 -/

namespace Generator

/-- A number is drawn from the hundred that a percentage is compared with. -/
theorem below100_mem (g : Generator) : 0 ≤ g.below100.1.toInt ∧ g.below100.1.toInt ≤ 99 := by
  obtain ⟨lower, upper⟩ := g.sample_mem (by decide : (0 : Int64) ≤ 99)
  exact ⟨Int64.le_iff_toInt_le.1 lower, Int64.le_iff_toInt_le.1 upper⟩

end Generator

/-! ### Rolls -/

namespace Trial

variable {α β : Type} [Actor α] [Actor β] {s : Scene α β} {t : Trial}

/-- A trial that takes luck has a word in front of its chance. -/
theorem label_of_luck (active : t.kind ≠ .none) (luck : t.kind ≠ .condition) :
    ∃ label, t.label = some label := by
  unfold label
  cases hk : t.kind with
  | none => exact absurd hk active
  | condition => exact absurd hk luck
  | social social => cases social <;> exact ⟨_, rfl⟩
  | skillCheck => exact ⟨_, rfl⟩

/-- A trial with a chance to show is decided by a single draw. -/
theorem roll_of_label {label : String} (h : t.label = some label) (g : Generator) :
    t.roll s g = (⟨g.below100.1.toInt < (t.chance s g).1.toInt, (t.chance s g).1, true⟩,
      g.below100.2) := by
  have free : t.rangeFree = true := by
    cases hk : t.kind with
    | condition => simp [Trial.label, hk] at h
    | _ => simp [rangeFree, hk]
  have still := (steady_chance (s := s) free).snd g
  unfold roll
  rw [draw_bind, still]
  cases hk : t.kind with
  | none | condition => simp [Trial.label, hk] at h
  | social | skillCheck => rfl

/-- Without a trial there is success, and nothing is drawn. -/
theorem roll_of_none (h : t.kind = .none) (g : Generator) :
    t.roll s g = (⟨true, 100, false⟩, g) := by
  unfold roll chance
  rw [h]
  rfl

/-- A condition succeeds with a chance of 100. -/
theorem roll_of_condition (h : t.kind = .condition) (g : Generator) :
    (t.roll s g).1 = ⟨100 ≤ (t.chance s g).1, (t.chance s g).1, false⟩ := by
  unfold roll
  rw [draw_bind, h]
  rfl

/-- A trial whose chance is 0 does not succeed, and one whose chance is 100 does not fail. -/
theorem roll_success_cases (t : Trial) (s : Scene α β) (g : Generator) :
    (t.roll s g).1.success = true ∧ 0 < (t.roll s g).1.chance.toInt ∨
      (t.roll s g).1.success = false ∧ (t.roll s g).1.chance.toInt < 100 := by
  by_cases active : t.kind = .none
  · rw [roll_of_none active]
    exact .inl ⟨rfl, (by decide : 0 < (100 : Int32).toInt)⟩
  by_cases luck : t.kind = .condition
  · rw [roll_of_condition luck]
    have hundred : (100 : Int32).toInt = 100 := rfl
    by_cases sure : (100 : Int32) ≤ (t.chance s g).1
    · have := Int32.le_iff_toInt_le.1 sure
      exact .inl ⟨decide_eq_true sure, by dsimp only; omega⟩
    · have : ¬(100 : Int32).toInt ≤ (t.chance s g).1.toInt := fun h =>
        sure (Int32.le_iff_toInt_le.2 h)
      exact .inr ⟨decide_eq_false sure, by dsimp only; omega⟩
  · obtain ⟨label, hl⟩ := label_of_luck active luck
    have drawn := g.below100_mem
    rw [roll_of_label hl]
    by_cases wins : g.below100.1.toInt < (t.chance s g).1.toInt
    · exact .inl ⟨decide_eq_true wins, by dsimp only; omega⟩
    · exact .inr ⟨decide_eq_false wins, by dsimp only; omega⟩

/-- A trial with a label shows the chance that it is about to be rolled with. -/
theorem decorate_of_label {label : String} (h : t.label = some label) (text : String)
    (g : Generator) :
    (t.decorate s text g).1 =
      "[" ++ label ++ " " ++ toString (t.chance s g).1.toInt ++ "%] " ++ text := by
  unfold decorate
  rw [h]
  rfl

end Trial

/-! ### Outcomes that are considered -/

namespace Response

/-- The outcomes of which a response warns when it succeeds with a chance. -/
def considered (r : Response) (chance : Int32) : List Outcome :=
  if 100 ≤ chance then [r.success] else if chance ≤ 0 then [r.failure]
  else [r.success, r.failure]

/-- What an offer warns of are the consequences of the outcomes that are considered. -/
theorem consequences_eq {β : Type} [Actor β] (r : Response) (chance : Int32) (npc : β) :
    r.consequences chance npc = (r.considered chance).map (·.consequence npc) := by
  unfold consequences considered
  split
  · rfl
  · split <;> rfl

/-- The outcome that a roll leads to is one of those considered for its chance. -/
theorem outcome_mem_considered {r : Response} {success : Bool} {chance : Int32}
    (fair : success = true ∧ 0 < chance.toInt ∨ success = false ∧ chance.toInt < 100) :
    r.outcome success ∈ r.considered chance := by
  have hundred : (100 : Int32).toInt = 100 := rfl
  have zero : (0 : Int32).toInt = 0 := rfl
  unfold outcome considered
  simp only [Int32.le_iff_toInt_le, hundred, zero]
  rcases fair with ⟨rfl, positive⟩ | ⟨rfl, below⟩
  · rw [if_neg (by omega : ¬chance.toInt ≤ 0)]
    split <;> exact .head _
  · rw [if_neg (by omega : ¬100 ≤ chance.toInt)]
    split
    · exact .head _
    · exact .tail _ (.head _)

end Response

namespace Session

variable {α β : Type} [Actor α] [Actor β]

/-! ### Offers one by one -/

/-- Each response is shown as it is when it stands alone, from some state of the generator. -/
theorem getElem?_offersFrom {scene : Scene α β} {responses : List Response} {index : Nat}
    {r : Response} (h : responses[index]? = some r) (first : Nat) (g : Generator) :
    ∃ g', (offersFrom scene first responses g).1[index]? =
      some (offer scene (first + index) r g').1 := by
  induction responses generalizing first index g with
  | nil => simp at h
  | cons r' rest ih =>
    cases index with
    | zero =>
      obtain rfl : r' = r := by simpa using h
      exact ⟨g, rfl⟩
    | succ index =>
      obtain ⟨g', hg⟩ := ih (by simpa using h) (first + 1) (offer scene first r' g).2
      refine ⟨g', ?_⟩
      rw [Nat.add_right_comm] at hg
      exact hg

/-- What is shown of a response whose chance is not drawn. -/
theorem offer_shows {scene : Scene α β} {r : Response} (free : r.trial.rangeFree = true)
    (index : Nat) (g g' : Generator) :
    (offer scene index r g).1.highlight = .ofConsequences
        ((r.considered (r.trial.chance scene g').1).map (·.consequence scene.npc)) ∧
      ∀ label, r.trial.label = some label → ∃ body, (offer scene index r g).1.text =
        "[" ++ label ++ " " ++ toString (r.trial.chance scene g').1.toInt ++ "%] " ++ body := by
  have chance (g : Generator) := (Trial.steady_chance (s := scene) free).fst g g'
  constructor
  · rw [← r.consequences_eq, ← chance g]
    rfl
  · intro label hl
    refine ⟨scene.substitute (r.displayText scene (r.trial.chance scene g).2).1, ?_⟩
    rw [← chance (r.displayText scene (r.trial.chance scene g).2).2]
    exact Trial.decorate_of_label hl _ _

/-! ### Choosing -/

/-- A response is shown with the chance for which it is rolled, whatever the random generator does
in between. -/
theorem offer_agrees [Actor.Discreet β] (s : Session α β) {index : Nat} {r : Response}
    (on_offer : s.responses[index]? = some r) (free : r.trial.rangeFree = true)
    (g g' : Generator) :
    let chance := ((s.withGenerator g').resolve r).1.chance
    ∃ shown, (s.withGenerator g).offers.1[index]? = some shown ∧
      shown.highlight = .ofConsequences ((r.considered chance).map (·.consequence s.scene.npc)) ∧
      ∀ label, r.trial.label = some label → ∃ body,
        shown.text = "[" ++ label ++ " " ++ toString chance.toInt ++ "%] " ++ body := by
  intro chance
  obtain ⟨g₁, shown⟩ : ∃ g₁, (offersFrom s.scene 0 s.responses g).1[index]? =
      some (offer s.scene (0 + index) r g₁).1 := getElem?_offersFrom on_offer 0 g
  have rolled : chance = (r.trial.roll (note r s.scene) g').1.chance := rfl
  rw [Trial.roll_chance, chance_note] at rolled
  rw [rolled]
  exact ⟨_, shown, offer_shows free (0 + index) g₁ g'⟩

/-- The outcome that is decided is one of those considered for the chance that is rolled for. -/
theorem decided_mem_considered (s : Session α β) (r : Response) :
    s.decided r ∈ r.considered (s.resolve r).1.chance :=
  Response.outcome_mem_considered
    (Trial.roll_success_cases r.trial (note r s.scene) s.encounter.generator)

/-- Apply an outcome of a response and go on to the topic that comes next. -/
def conclude (s : Session α β) (r : Response) (o : Outcome) :
    Except Fault String × Session α β :=
  let (next, encounter) := o.apply s.encounter
  let s := { s with encounter }
  match next with
  | .ok next => (.ok next, s.goOn r next)
  | .error fault => (.error fault, s)

/-- Choosing a response decides it and applies the outcome that was decided. -/
theorem select_eq_conclude {s : Session α β} {index : Nat} {r : Response}
    (h : s.responses[index]? = some r) :
    s.select index = (s.resolve r).2.conclude r (s.decided r) := by
  unfold select
  rw [h]
  rfl

theorem lastTrial_conclude (s : Session α β) (r : Response) (o : Outcome) :
    (s.conclude r o).2.lastTrial = s.lastTrial := by
  unfold conclude
  cases o.apply s.encounter with | mk next encounter
  cases next with
  | error fault => rfl
  | ok next =>
    exact goOn_keeps (·.lastTrial) r next { s with encounter } rfl fun _ => rfl

/-- In every state of a session, a response on offer whose trial is not decided by a range is
rolled for as it is shown, whatever the random generator does in between. Choosing it applies the
outcome that was decided, which is one of those whose consequences make the warning; the chance that
is recorded lies from 0 to 100. Without a trial the response succeeds and draws nothing. With one
that takes luck it is the recorded chance that is shown, and the response succeeds if the one number
drawn from 0 to 99 is below it. -/
theorem rolled_as_shown [Actor.Discreet β] (s : Session α β) {index : Nat} {r : Response}
    (on_offer : s.responses[index]? = some r) (free : r.trial.rangeFree = true)
    (g g' : Generator) :
    let before := s.withGenerator g'
    let roll := (before.resolve r).1
    let after := (before.resolve r).2
    ∃ shown, (s.withGenerator g).offers.1[index]? = some shown ∧
      before.select index = after.conclude r (r.outcome roll.success) ∧
      (before.select index).2.lastTrial = some roll ∧
      (0 ≤ roll.chance.toInt ∧ roll.chance.toInt ≤ 100) ∧
      shown.highlight =
        .ofConsequences ((r.considered roll.chance).map (·.consequence s.scene.npc)) ∧
      r.outcome roll.success ∈ r.considered roll.chance ∧
      (r.trial.kind = .none → roll.success = true ∧ after.encounter.generator = g') ∧
      (r.trial.kind ≠ .none → r.trial.kind ≠ .condition → ∃ label body,
        r.trial.label = some label ∧
        shown.text = "[" ++ label ++ " " ++ toString roll.chance.toInt ++ "%] " ++ body ∧
        (0 ≤ g'.below100.1.toInt ∧ g'.below100.1.toInt ≤ 99) ∧
        (roll.success = true ↔ g'.below100.1.toInt < roll.chance.toInt) ∧
        after.encounter.generator = g'.below100.2) := by
  intro before roll after
  obtain ⟨shown, offered, warns, tells⟩ := s.offer_agrees on_offer free g g'
  have chosen : before.select index = after.conclude r (r.outcome roll.success) :=
    select_eq_conclude on_offer
  refine ⟨shown, offered, chosen, ?_, ?_, warns, before.decided_mem_considered r, ?_, ?_⟩
  · rw [chosen, lastTrial_conclude]
    rfl
  · have rolled : roll.chance = (r.trial.chance (note r s.scene) g').1 := Trial.roll_chance _ _
    rw [rolled]
    exact r.trial.chance_mem g'
  · intro none
    have same := Trial.roll_of_none (s := note r s.scene) none g'
    exact ⟨congrArg (·.1.success) same, congrArg (·.2) same⟩
  · intro active luck
    obtain ⟨label, hl⟩ := Trial.label_of_luck active luck
    obtain ⟨body, text⟩ := tells label hl
    have same := Trial.roll_of_label (s := note r s.scene) hl g'
    have rolled : roll = (r.trial.roll (note r s.scene) g').1 := rfl
    refine ⟨label, body, hl, text, g'.below100_mem, ?_, congrArg (·.2) same⟩
    rw [rolled, same]
    exact decide_eq_true_iff

/-- The chance of talking someone round is shown as it is rolled. -/
theorem plea_rolled_as_shown :
    let plea : Response :=
      { text := "Help me.", trial := { kind := .social .persuade, difficulty := 50 }
        mission := some "rats" }
    let s := (start (Player.ofSheet (.new "Bob")) ((Npc.ofSheet (.new "Ann")).withMission "rats" 5)
      .empty (Registry.empty.insert ((Topic.new "TALK").withResponse plea))
      { firstTopic := "TALK" } 0).generate
    ∃ shown roll body, (s.withGenerator (.ofSeed 1)).offers.1[0]? = some shown ∧
      ((s.withGenerator (.ofSeed 2)).select 0).2.lastTrial = some roll ∧
      shown.text = "[PERSUADE " ++ toString roll.chance.toInt ++ "%] " ++ body := by
  intro plea s
  have on_offer : s.responses[0]? = some plea := by rfl
  obtain ⟨shown, offered, -, recorded, -, -, -, -, shows⟩ :=
    rolled_as_shown s on_offer rfl (.ofSeed 1) (.ofSeed 2)
  obtain ⟨label, body, hl, text, -⟩ := shows (by decide) (by decide)
  obtain rfl : "PERSUADE" = label := Option.some.inj hl
  exact ⟨shown, _, body, offered, recorded, text⟩

end Session

end Parley
