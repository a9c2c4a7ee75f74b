import Parley.Proofs.CheckedTrial
import Parley.Proofs.Operation

/-!
# Sessions with exact arithmetic

What a session computes once more, with every sum, difference, product and quotient that does not
stop at the ends of the range made exact. Where the trials on offer are proper, the only result
that is not representable is a part of the change of opinion.
-/

namespace Parley

variable {α β γ : Type}

/-- The opinion with `f` applied to each of its parts, in order. -/
def Opinion.mapExcept (f : Int32 → Except Breach Int32) (o : Opinion) : Except Breach Opinion := do
  return ⟨← f o.trust, ← f o.fear, ← f o.value, ← f o.anger, ← f o.owed⟩

theorem Opinion.mapExcept_eq {f : Int32 → Except Breach Int32} {g : Int32 → Int32} {o : Opinion}
    (h : ∀ a ∈ o.parts, f a = .ok (g a)) : o.mapExcept f = .ok (o.map g) := by
  obtain ⟨trust, fear, value, anger, owed⟩ := o
  simp only [parts, List.mem_cons, List.not_mem_nil, or_false, forall_eq_or_imp, forall_eq] at h
  obtain ⟨h1, h2, h3, h4, h5⟩ := h
  simp only [mapExcept, h1, h2, h3, h4, h5]
  rfl

/-- If some part breaks off, and no part for another reason, then the whole breaks off. -/
theorem Opinion.mapExcept_error {f : Int32 → Except Breach Int32} {b : Breach} {o : Opinion}
    (some_part : ∃ a ∈ o.parts, f a = .error b)
    (other_parts : ∀ a ∈ o.parts, f a = .error b ∨ ∃ c, f a = .ok c) :
    o.mapExcept f = .error b := by
  obtain ⟨trust, fear, value, anger, owed⟩ := o
  simp only [parts, List.mem_cons, List.not_mem_nil, or_false, forall_eq_or_imp, forall_eq,
    exists_eq_or_imp, exists_eq_left] at some_part other_parts
  obtain ⟨h1 | ⟨_, h1⟩, h2 | ⟨_, h2⟩, h3 | ⟨_, h3⟩, h4 | ⟨_, h4⟩, h5 | ⟨_, h5⟩⟩ := other_parts
  all_goals simp_all [mapExcept, bind, Except.bind]

namespace Outcome

/-- `value` divided by `divisor` in exact arithmetic; zero for a zero divisor. -/
def checkedScaled (value divisor : Int32) : Except Breach Int32 :=
  if divisor = 0 then .ok 0 else Exact.div value divisor

/-- The change of opinion when the selected mission has a value, in exact arithmetic. -/
def checkedOpinionChange (o : Outcome) : Option Int32 → Except Breach Opinion
  | none => .ok o.opinion
  | some value => do
    return o.opinion.add (← o.missionOpinion.mapExcept (checkedScaled value))

/-- Scaling breaks off in one case only. -/
theorem checkedScaled_eq {value divisor : Int32} (h : value ≠ Int32.minValue ∨ divisor ≠ -1) :
    checkedScaled value divisor = .ok (scaled value divisor) := by
  unfold checkedScaled scaled
  split
  · rfl
  · rename_i nonzero
    exact Exact.div_eq nonzero h

/-- The one case is the smallest integer divided by minus one. -/
theorem checkedScaled_minValue : checkedScaled Int32.minValue (-1) = .error .overflow := by
  rw [checkedScaled, if_neg (by decide), Exact.div_minValue]

/-- A quotient fails to fit for the least integer divided by minus one, and for nothing else. -/
theorem overflows_iff {value : Int32} {divisors : Opinion} :
    overflows value divisors = true ↔ value = Int32.minValue ∧ -1 ∈ divisors.parts := by
  simp [overflows]

/-- The change of opinion breaks off exactly where a quotient does not fit. -/
theorem checkedOpinionChange_eq (o : Outcome) (value? : Option Int32) :
    o.checkedOpinionChange value? = (o.opinionChange value?).mapError fun _ => .overflow := by
  cases value? with
  | none => rfl
  | some value =>
    dsimp only [checkedOpinionChange, opinionChange]
    cases hv : overflows value o.missionOpinion with
    | true =>
      obtain ⟨rfl, mem⟩ := overflows_iff.1 hv
      rw [Opinion.mapExcept_error ⟨-1, mem, checkedScaled_minValue⟩]
      · rfl
      · intro a _
        by_cases ha : a = -1
        · exact .inl (ha ▸ checkedScaled_minValue)
        · exact .inr ⟨_, checkedScaled_eq (.inr ha)⟩
    | false =>
      rw [Opinion.mapExcept_eq (g := scaled value)]
      · rfl
      · intro a mem
        refine checkedScaled_eq (Decidable.not_and_iff_not_or_not.1 ?_)
        rintro ⟨rfl, rfl⟩
        rw [overflows_iff.2 ⟨rfl, mem⟩] at hv
        contradiction

/-- The change of opinion breaks off for a single reason. -/
theorem opinionChange_eq_error {o : Outcome} {value? : Option Int32} {fault : Fault} :
    o.opinionChange value? = .error fault ↔
      fault = .quotientOverflow ∧ value? = some Int32.minValue ∧ -1 ∈ o.missionOpinion.parts := by
  cases value? with
  | none => simp [opinionChange]
  | some value =>
    rw [Option.some_inj, ← overflows_iff, opinionChange]
    split
    · rename_i h
      simp [h, eq_comm]
    · rename_i h
      simp [h]

variable [Actor α] [Actor β]

/-- Apply an outcome in exact arithmetic, and say which topic comes next. -/
def checkedApply (o : Outcome) (e : Encounter α β) : Except Breach (String × Encounter α β) := do
  let e := o.carryOut e
  let delta ← o.checkedOpinionChange (Actor.selectedMissionValue e.scene.npc)
  let (next, scene) := o.settle delta e.scene
  return (next, { e with scene })

/-- Applying an outcome breaks off exactly where it ends in a fault. -/
theorem checkedApply_eq (o : Outcome) (e : Encounter α β) :
    o.checkedApply e = match o.apply e with
      | (.ok next, e') => .ok (next, e')
      | (.error _, _) => .error .overflow := by
  simp only [checkedApply, apply, checkedOpinionChange_eq]
  cases o.opinionChange (Actor.selectedMissionValue (o.carryOut e).scene.npc) <;> rfl

end Outcome

namespace Session

variable [Actor α] [Actor β]

/-- A response as it is shown at a place, in exact arithmetic. -/
def checkedOffer (scene : Scene α β) (index : Nat) (r : Response) : Checked Offer := do
  let chance ← r.trial.checkedChance scene
  let text ← .lift (r.displayText scene)
  let text ← r.trial.checkedDecorate scene (scene.substitute text)
  return {
    text
    highlight := .ofConsequences (r.consequences chance scene.npc)
    hotkey := hotkey index }

/-- Responses as they are shown from a place on, in exact arithmetic. -/
def checkedOffersFrom (scene : Scene α β) : Nat → List Response → Checked (List Offer)
  | _, [] => pure []
  | index, r :: rest => do
    let o ← checkedOffer scene index r
    let os ← checkedOffersFrom scene (index + 1) rest
    return o :: os

/-- The result of an evaluation that may break off, and the session after it. -/
def checkedDrawing (s : Session α β) (m : Checked γ) : Except Breach (γ × Session α β) :=
  let (result, generator) := m.run.run s.encounter.generator
  result.map fun a => (a, s.withGenerator generator)

/-- The responses on offer, as they are shown, in exact arithmetic. -/
def checkedOffers (s : Session α β) : Except Breach (List Offer × Session α β) :=
  s.checkedDrawing (checkedOffersFrom s.scene 0 s.responses)

theorem checkedOffer_eq {scene : Scene α β} {r : Response} (h : r.trial.Proper) (index : Nat) :
    checkedOffer scene index r = .lift (offer scene index r) := by
  unfold checkedOffer offer
  simp only [Trial.checkedChance_eq h, Trial.checkedDecorate_eq h]
  rfl

theorem checkedOffersFrom_eq {scene : Scene α β} {rs : List Response} (index : Nat)
    (h : ∀ r ∈ rs, r.trial.Proper) :
    checkedOffersFrom scene index rs = .lift (offersFrom scene index rs) := by
  induction rs generalizing index with
  | nil => rfl
  | cons r rest ih =>
    unfold checkedOffersFrom offersFrom
    rw [checkedOffer_eq (h r (.head _)), ih (index + 1) fun r' mem => h r' (.tail _ mem)]
    rfl

/-- No offer breaks off if the difficulties are proper. -/
theorem checkedOffers_eq {s : Session α β} (h : ∀ r ∈ s.responses, r.trial.Proper) :
    s.checkedOffers = .ok s.offers := by
  unfold checkedOffers
  rw [checkedOffersFrom_eq 0 h]
  rfl

/-- How much is learnt from a trial, in exact arithmetic. -/
def checkedPractice (roll : Roll) : Except Breach Int32 := do
  Exact.div (← Exact.sub 100 roll.chance) (if roll.success then 10 else 7)

/-- Let the player learn from a trial of a social skill, in exact arithmetic. -/
def checkedLearn (r : Response) (roll : Roll) (scene : Scene α β) : Except Breach (Scene α β) :=
  if roll.rolled && r.trial.kind.social?.isSome && Actor.isPlayer scene.u then do
    let amount ← checkedPractice roll
    return { scene with u := Actor.practiceSkill scene.u speechSkill amount }
  else .ok scene

/-- Decide how a response turns out, in exact arithmetic. -/
def checkedResolve (s : Session α β) (r : Response) : Except Breach (Roll × Session α β) := do
  let s := s.withScene (note r s.scene)
  let (roll, s) ← s.checkedDrawing (r.trial.checkedRoll s.scene)
  let s := { s with lastTrial := some roll }
  return (roll, s.withScene (← checkedLearn r roll s.scene))

/-- Choose a response in exact arithmetic. -/
def checkedSelect (s : Session α β) (index : Nat) : Except Breach (Session α β) :=
  match s.responses[index]? with
  | none => .error .noSuchResponse
  | some r => do
    let (roll, s) ← s.checkedResolve r
    let (next, encounter) ← (r.outcome roll.success).checkedApply s.encounter
    return goOn r next { s with encounter }

omit [Actor α] [Actor β] in
/-- The practice that a chance between 0 and 100 gives is within range. -/
theorem checkedPractice_eq {roll : Roll} (h0 : 0 ≤ roll.chance.toInt)
    (h100 : roll.chance.toInt ≤ 100) : checkedPractice roll = .ok (practice roll) := by
  have whole : (100 : Int32).toInt = 100 := rfl
  have rest : Exact.sub 100 roll.chance = .ok (100 - roll.chance) :=
    Exact.sub_eq (by omega) (by omega)
  unfold checkedPractice practice
  rw [rest]
  cases roll.success with
  | true => exact Exact.div_eq (b := 10) (by decide) (.inr (by decide))
  | false => exact Exact.div_eq (b := 7) (by decide) (.inr (by decide))

omit [Actor β] in
theorem checkedLearn_eq {r : Response} {roll : Roll} {scene : Scene α β}
    (h0 : 0 ≤ roll.chance.toInt) (h100 : roll.chance.toInt ≤ 100) :
    checkedLearn r roll scene = .ok (learn r roll scene) := by
  unfold checkedLearn learn
  rw [checkedPractice_eq h0 h100]
  split <;> rfl

theorem checkedResolve_eq {s : Session α β} {r : Response} (h : r.trial.Proper) :
    s.checkedResolve r = .ok (s.resolve r) := by
  obtain ⟨h0, h100⟩ := r.trial.chance_mem (s := note r s.scene) s.encounter.generator
  rw [← Trial.roll_chance] at h0 h100
  simp only [checkedResolve, Trial.checkedRoll_eq h]
  change ((checkedLearn r (r.trial.roll (note r s.scene) s.encounter.generator).1
    (note r s.scene)).bind fun scene => .ok _) = _
  rw [checkedLearn_eq h0 h100]
  rfl

/-- Choosing a response breaks off in exact arithmetic where it ends in a fault. -/
theorem checkedSelect_eq {s : Session α β} {index : Nat} {r : Response}
    (hr : s.responses[index]? = some r) (h : r.trial.Proper) :
    s.checkedSelect index = match s.select index with
      | (.ok _, s') => .ok s'
      | (.error _, _) => .error .overflow := by
  simp only [checkedSelect, select, hr, checkedResolve_eq h, Outcome.checkedApply_eq, bind,
    Except.bind]
  rcases (r.outcome (s.resolve r).1.success).apply (s.resolve r).2.encounter with ⟨_ | _, _⟩ <;>
    rfl

end Session

end Parley
