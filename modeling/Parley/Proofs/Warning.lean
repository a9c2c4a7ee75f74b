import Parley.Proofs.Shown
import Parley.Proofs.Attempts

/-!
# The warning of hostility

An offer warns that the other speaker may turn hostile. The warning is worked out from the effects
and the anger of the outcomes that are considered; what makes a speaker hostile is an effect, or
the anger felt afterwards. Where nothing else adds to the anger, a response without the warning
leaves the speaker at peace.

Two things escape the warning. A condition with a range is drawn anew when the response is chosen,
so that another outcome may come of it than the one considered. And the part of the anger that
grows with the value of the selected mission is not looked at.
-/

namespace Parley

/-! ### Consequences -/

namespace Consequence

theorem worse_eq_hostile {a b : Consequence} :
    a.worse b = .hostile ↔ a = .hostile ∨ b = .hostile := by
  cases a <;> cases b <;> decide

/-- The worst of several consequences is hostile just when one of them is. -/
theorem foldl_worse_eq_hostile {l : List Consequence} {c : Consequence} :
    l.foldl .worse c = .hostile ↔ c = .hostile ∨ .hostile ∈ l := by
  induction l generalizing c with
  | nil => simp
  | cons first rest ih =>
    rw [List.foldl_cons, ih, worse_eq_hostile, List.mem_cons, or_assoc]
    simp only [eq_comm]

end Consequence

theorem Highlight.ofConsequences_eq_hostile {l : List Consequence} :
    ofConsequences l = .hostile ↔ .hostile ∈ l := by
  have warns (c : Consequence) : ofConsequence c = .hostile ↔ c = .hostile := by
    cases c <;> decide
  rw [ofConsequences, warns, Consequence.foldl_worse_eq_hostile]
  simp

/-- An outcome is hostile by its opinion or by one of its effects. -/
theorem Outcome.consequence_eq_hostile {β : Type} [Actor β] {o : Outcome} {npc : β} :
    o.consequence npc = .hostile ↔ Actor.checkHostileResponse npc o.opinion.anger = true ∨
      ∃ e ∈ o.effects, Consequence.ofEffect e = .hostile := by
  rw [consequence, Consequence.foldl_worse_eq_hostile, List.mem_map]
  split <;> simp [*]

/-! ### Anger -/

theorem add32_le_left (a : Int32) {b : Int32} (h : b.toInt ≤ 0) : (add32 a b).toInt ≤ a.toInt := by
  have := a.le_toInt
  rw [add32, toInt_clamp32]
  simp only [Int32.toInt_minValue] at *
  omega

namespace Npc

variable {n n' n'' : Npc}

/-- A speaker is no angrier than before: the opinion is the same and takes as much to turn, and the
speaker has not become an enemy. -/
structure NoAngrier (n n' : Npc) : Prop where
  opinion : n'.opinion = n.opinion
  angerThreshold : n'.angerThreshold = n.angerThreshold
  hostile : n'.hostile = true → n.hostile = true

theorem Kept.noAngrier (h : n.Kept n') : n.NoAngrier n' where
  opinion := h.opinion
  angerThreshold := h.angerThreshold
  hostile := fun enemy => h.hostile ▸ enemy

theorem NoAngrier.trans (h : n.NoAngrier n') (h' : n'.NoAngrier n'') : n.NoAngrier n'' where
  opinion := h'.opinion.trans h.opinion
  angerThreshold := h'.angerThreshold.trans h.angerThreshold
  hostile := fun enemy => h.hostile (h'.hostile enemy)

/-- One stays calm if one is not hostile yet and below the threshold of anger. -/
theorem turnedHostile_eq_false :
    n.turnedHostile = false ↔
      n.hostile = false ∧ n.opinion.anger.toInt < n.angerThreshold.toInt := by
  simp [turnedHostile, Int32.le_iff_toInt_le]

theorem checkHostileResponse_eq_false {anger : Int32} :
    n.checkHostileResponse anger = false ↔
      (0 < anger.toInt → (add32 n.opinion.anger anger).toInt < n.angerThreshold.toInt) := by
  have zero : (0 : Int32).toInt = 0 := rfl
  simp [checkHostileResponse, Int32.le_iff_toInt_le, Int32.lt_iff_toInt_lt, zero]

/-- Whoever is no angrier than before does not turn hostile. -/
theorem NoAngrier.turnedHostile (h : n.NoAngrier n') (calm : n.turnedHostile = false) :
    n'.turnedHostile = false := by
  rw [turnedHostile_eq_false] at calm ⊢
  rw [h.opinion, h.angerThreshold]
  refine ⟨?_, calm.2⟩
  cases hh : n'.hostile with
  | false => rfl
  | true => rw [h.hostile hh] at calm; exact calm.1

/-- A speaker who would not turn hostile by an amount of anger does not by less. -/
theorem turnedHostile_addOpinion (calm : n.turnedHostile = false) {delta : Opinion} {anger : Int32}
    (checked : n.checkHostileResponse anger = false) (less : delta.anger.toInt ≤ anger.toInt) :
    ({ n with opinion := n.opinion.add delta } : Npc).turnedHostile = false := by
  rw [turnedHostile_eq_false] at calm ⊢
  refine ⟨calm.1, ?_⟩
  change (add32 n.opinion.anger delta.anger).toInt < n.angerThreshold.toInt
  by_cases positive : 0 < anger.toInt
  · have bound := checkHostileResponse_eq_false.1 checked positive
    have := add32_mono (Int.le_refl n.opinion.anger.toInt) less
    omega
  · have := add32_le_left n.opinion.anger (b := delta.anger) (by omega)
    omega

end Npc

/-! ### Effects -/

/-- An effect without the warning makes nobody angrier. -/
theorem EffectKind.Stirs.noAngrier {e : Effect} {n n' : Npc} (h : e.kind.Stirs n n')
    (peaceful : Consequence.ofEffect e ≠ .hostile) : n.NoAngrier n' := by
  obtain ⟨kind, target⟩ := e
  rcases h.temper_or_action with ⟨opinion, threshold, hostile⟩ | ⟨action, rfl, rfl⟩
  · exact ⟨opinion, threshold, hostile.symm.trans⟩
  · cases action with
    | hostile | insultCombat => exact absurd rfl peaceful
    | makeNeutral => exact ⟨rfl, rfl, nofun⟩
    | _ => exact ⟨rfl, rfl, id⟩

namespace Outcome

variable {α : Type} [Actor α]

/-- Effects without hostile consequences anger nobody. -/
theorem noAngrier_carryOut {o : Outcome} (enc : Encounter α Npc)
    (peaceful : ∀ e ∈ o.effects, Consequence.ofEffect e ≠ .hostile) :
    enc.scene.npc.NoAngrier (o.carryOut enc).scene.npc := by
  refine forM_induction (P := fun enc' : Encounter α Npc =>
    enc.scene.npc.NoAngrier enc'.scene.npc) (Npc.Kept.refl _).noAngrier ?_
  intro e mem enc' h
  exact h.trans ((e.attempt_stirs enc').noAngrier (peaceful e mem))

/-- Of the anger of an outcome no more is felt than it says, if the mission adds nothing to it. -/
theorem anger_opinionChange {o : Outcome} {value : Option Int32} {delta : Opinion}
    (changed : o.opinionChange value = .ok delta)
    (share : ∀ v, value = some v → scaled v o.missionOpinion.anger ≤ 0) :
    delta.anger.toInt ≤ o.opinion.anger.toInt := by
  cases value with
  | none =>
    obtain rfl := Except.ok.inj changed
    exact Int.le_refl _
  | some v =>
    unfold opinionChange at changed
    dsimp only at changed
    split at changed
    · contradiction
    · obtain rfl := Except.ok.inj changed
      exact add32_le_left o.opinion.anger (Int32.le_iff_toInt_le.1 (share v rfl))

omit [Actor α] in
/-- The change of opinion leaves a speaker at peace whom the anger of the outcome would not turn. -/
theorem settle_of_calm {o : Outcome} {delta : Opinion} {s : Scene α Npc}
    (calm : s.npc.turnedHostile = false)
    (checked : s.npc.checkHostileResponse o.opinion.anger = false)
    (less : delta.anger.toInt ≤ o.opinion.anger.toInt) :
    (o.settle delta s).2.npc.turnedHostile = false := by
  have felt : (s.feel delta).npc.turnedHostile = false := by
    unfold Scene.feel
    split
    · exact calm
    · exact Npc.turnedHostile_addOpinion calm checked less
  have calm : Actor.turnedHostile (s.feel delta).npc = false := felt
  rw [o.settle_eq, calm]
  exact felt

end Outcome

/-! ### Choices -/

namespace Session

variable {α : Type} [Actor α]

omit [Actor α] in
theorem kept_note (r : Response) (scene : Scene α Npc) :
    scene.npc.Kept (note r scene).npc := by
  unfold note
  dsimp only
  split <;> split <;> exact ⟨rfl, rfl, rfl, rfl⟩

/-- Deciding a response makes the other speaker no angrier. -/
theorem noAngrier_resolve (s : Session α Npc) (r : Response) :
    s.scene.npc.NoAngrier (s.resolve r).2.scene.npc := by
  have learnt : (s.resolve r).2.scene.npc = (note r s.scene).npc := by
    change (learn r (s.resolve r).1 (note r s.scene)).npc = _
    unfold learn
    split <;> rfl
  rw [learnt]
  exact (kept_note r s.scene).noAngrier

/-- A speaker who is at peace stays so after a choice, if the outcome that is decided is not hostile
and the selected mission adds nothing to its anger. -/
theorem peaceful_select {s : Session α Npc} {index : Nat} {r : Response}
    (on_offer : s.responses[index]? = some r) (calm : s.scene.npc.turnedHostile = false)
    (harmless : (s.decided r).consequence s.scene.npc ≠ .hostile)
    (share : ∀ value, Actor.selectedMissionValue (s.afterEffects r).scene.npc = some value →
      Outcome.scaled value (s.decided r).missionOpinion.anger ≤ 0) :
    (s.select index).2.scene.npc.turnedHostile = false := by
  rw [Ne, Outcome.consequence_eq_hostile, not_or] at harmless
  obtain ⟨unprovoked, peaceful⟩ := harmless
  simp only [not_exists, not_and] at peaceful
  -- The offer looked at the speaker before the effects, the anger is felt after them; in between
  -- the opinion and the threshold have not changed.
  have quiet : s.scene.npc.NoAngrier (s.afterEffects r).scene.npc :=
    (s.noAngrier_resolve r).trans ((s.decided r).noAngrier_carryOut _ peaceful)
  have still := quiet.turnedHostile calm
  rcases select_cases on_offer with ⟨fault, -, hs⟩ | ⟨delta, next, scene, changed, settled, hs⟩
  · rw [hs]
    exact still
  · rw [hs]
    have checked : (s.afterEffects r).scene.npc.checkHostileResponse
        (s.decided r).opinion.anger = false := by
      have same : (s.afterEffects r).scene.npc.checkHostileResponse (s.decided r).opinion.anger =
          s.scene.npc.checkHostileResponse (s.decided r).opinion.anger := by
        simp only [Npc.checkHostileResponse, quiet.opinion, quiet.angerThreshold]
      rw [same]
      exact Bool.eq_false_iff.2 unprovoked
    have after := Outcome.settle_of_calm still checked (Outcome.anger_opinionChange changed share)
    rw [settled] at after
    have went := npc_goOn r next
      { (s.resolve r).2 with encounter := { s.afterEffects r with scene } }
    exact (congrArg Npc.turnedHostile went).trans after

/-- A speaker who is at peace stays so, whatever the random generator does, when a response is
chosen whose offer does not warn of hostility; unless a range decides its trial, or the selected
mission adds to the anger of the outcome. -/
theorem peaceful_unless_warned (s : Session α Npc) (calm : s.scene.npc.turnedHostile = false)
    {index : Nat} {r : Response} (on_offer : s.responses[index]? = some r)
    (free : r.trial.rangeFree = true) (g g' : Generator) {shown : Offer}
    (offered : (s.withGenerator g).offers.1[index]? = some shown)
    (unwarned : shown.highlight ≠ .hostile)
    (share : ∀ value, Actor.selectedMissionValue
        ((s.withGenerator g').afterEffects r).scene.npc = some value →
      Outcome.scaled value ((s.withGenerator g').decided r).missionOpinion.anger ≤ 0) :
    ((s.withGenerator g').select index).2.scene.npc.turnedHostile = false := by
  obtain ⟨shown', offered', warns, -⟩ := s.offer_agrees on_offer free g g'
  obtain rfl : shown' = shown := Option.some.inj (offered'.symm.trans offered)
  have harmless : ((s.withGenerator g').decided r).consequence s.scene.npc ≠ .hostile := by
    intro hostile
    refine unwarned (warns.trans (Highlight.ofConsequences_eq_hostile.2 ?_))
    rw [← hostile]
    exact List.mem_map_of_mem ((s.withGenerator g').decided_mem_considered r)
  have before : (s.withGenerator g').scene.npc.turnedHostile = false := calm
  exact peaceful_select (s := s.withGenerator g') on_offer before harmless share

/-- A plea that fails makes the other speaker angrier, but not hostile. -/
theorem failed_plea_peaceful :
    let plea : Response :=
      { text := "Pay me first.", trial := { kind := .social .persuade, difficulty := 50 }
        failure :=
          { opinion := { Opinion.zero with anger := 5 }
            missionOpinion := { Opinion.zero with anger := -50 } }
        mission := some "rats" }
    let s := (start (Player.ofSheet (.new "Bob")) ((Npc.ofSheet (.new "Ann")).withMission "rats" 100)
      .empty (Registry.empty.insert ((Topic.new "TALK").withResponse plea))
      { firstTopic := "TALK" } 0).generate
    let after := ((s.withGenerator (.ofSeed 1)).select 0).2
    after.lastTrial = some ⟨false, 50, true⟩ ∧ after.scene.npc.opinion.anger = 3 ∧
      after.scene.npc.turnedHostile = false := by
  intro plea s after
  have offered : (s.withGenerator (.ofSeed 0)).offers.1[0]? =
      some ⟨"[PERSUADE 50%] Pay me first.", .plain, 'a'⟩ := by decide +kernel
  have failed : after.lastTrial = some ⟨false, 50, true⟩ ∧ after.scene.npc.opinion.anger = 3 ∧
      Actor.selectedMissionValue ((s.withGenerator (.ofSeed 1)).afterEffects plea).scene.npc =
        some 100 ∧
      Outcome.scaled 100 ((s.withGenerator (.ofSeed 1)).decided plea).missionOpinion.anger ≤ 0 := by
    decide +kernel
  obtain ⟨rolled, anger, selected, share⟩ := failed
  refine ⟨rolled, anger, ?_⟩
  refine peaceful_unless_warned s rfl rfl rfl (.ofSeed 0) (.ofSeed 1) offered (by decide) ?_
  intro value same
  obtain rfl : 100 = value := Option.some.inj (selected.symm.trans same)
  exact share

/-- Two responses without the warning turn the other speaker hostile: one whose condition is drawn
anew, and one that the value of the selected mission makes worse. -/
theorem unwarned_hostility :
    let talk (npc : Npc) (r : Response) : Session Player Npc :=
      (start (Player.ofSheet (.new "Bob")) npc .empty
        (Registry.empty.insert { (Topic.new "TALK").withResponse r with replace? := some true })
        { firstTopic := "TALK" } 0).generate
    let demand : Response :=
      { text := "Hand it over."
        trial :=
          { kind := .condition
            condition := some (.compareInt (.range (.literal 0) (.literal 1)) .eq (.literal 1)) }
        failure := { effects := [⟨.action .hostile, .npc⟩] } }
    let excuse : Response :=
      { text := "Not yet.", success := { missionOpinion := { Opinion.zero with anger := 1 } } }
    let ann := Npc.ofSheet (.new "Ann")
    let waiting : Npc :=
      { ann.withMission "rats" 100 with selectedMission := some "rats" }
    ((talk ann demand).scene.npc.turnedHostile = false ∧
      (talk ann demand).offers.1.map (·.highlight) = [.plain] ∧
      ((talk ann demand).offers.2.select 0).2.scene.npc.turnedHostile = true) ∧
    (talk waiting excuse).scene.npc.turnedHostile = false ∧
      (talk waiting excuse).offers.1.map (·.highlight) = [.plain] ∧
      ((talk waiting excuse).offers.2.select 0).2.scene.npc.turnedHostile = true := by
  intro talk demand excuse ann waiting
  -- The range comes to 1 when the offer is worked out and to 0 when it is chosen.
  have drawn : (talk ann demand).offers.1.map (·.highlight) = [.plain] ∧
      ((talk ann demand).offers.2.select 0).2.scene.npc.turnedHostile = true := by
    decide +kernel
  -- The value of 100, divided by 1, is more anger than the threshold of 20 takes.
  have felt : (talk waiting excuse).offers.1.map (·.highlight) = [.plain] ∧
      ((talk waiting excuse).offers.2.select 0).2.scene.npc.turnedHostile = true := by
    decide +kernel
  exact ⟨⟨rfl, drawn⟩, rfl, felt⟩

end Session

end Parley
