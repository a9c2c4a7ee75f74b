import Parley.Actor.Npc
import Parley.Actor.Player
import Parley.Proofs.Entering
import Parley.Proofs.Opening

/-!
# Scripted conversations

A conversation that is held by a script ends, also where the topics lead round in circles: the
script wants to stop once its choices are used up and it has been shown enough. Then the last offer
is chosen, and there always is one; so the one choice that is not on offer, if there is one, was
written in the script.
-/

namespace Parley

variable {α β π : Type} [Actor α] [Actor β] [Presenter π]

/-- The choice that an operation makes, and the number of responses on offer. -/
def Operation.picked (op : Operation) (s : Session α β) : List (Nat × Nat) :=
  match op with
  | .choose index => [(index, s.responses.length)]
  | _ => []

namespace Session

theorem picked_cycle (s : Session α β) (p : π) :
    during Operation.picked (s.cycleOps p) s = [(s.choice p, s.opening.2.responses.length)] := rfl

end Session

/-! ### Scripts -/

namespace Script

/-- The number of cycles that a script takes part in at most, those that are over included. -/
def reach (p : Script) : Nat := max (p.choices.length + p.shown.length) (patience + 1)

/-- A script never shows more than its reach. -/
theorem length_shown_le_reach (p : Script) : p.shown.length ≤ p.reach :=
  Nat.le_trans (Nat.le_add_left _ _) (Nat.le_max_left _ _)

/-- A script stops once its choices are used up and its patience is exceeded. -/
theorem shouldStop_iff {p : Script} :
    Presenter.shouldStop p = true ↔ p.choices = [] ∧ patience < p.shown.length := by
  change (p.choices.isEmpty && decide (patience < p.shown.length)) = true ↔ _
  rw [Bool.and_eq_true, List.isEmpty_iff, decide_eq_true_iff]

/-- The script after it was shown something. -/
def next (p : Script) (line : String) (offers : List Offer) : Script :=
  ⟨p.choices.tail, (line, offers) :: p.shown⟩

/-- A script makes the next of its choices, or else takes the last offer. -/
theorem present_eq (p : Script) (line : String) (offers : List Offer) :
    p.present line offers = (p.choices[0]?.getD (offers.length - 1), p.next line offers) := by
  obtain ⟨_ | ⟨choice, choices⟩, shown⟩ := p <;> rfl

/-- As long as a script does not want to stop, a cycle does not take it further than it reaches. -/
theorem reach_next_le {p : Script} (patient : Presenter.shouldStop p = false) (line : String)
    (offers : List Offer) : (p.next line offers).reach ≤ p.reach := by
  have going : ¬(p.choices = [] ∧ patience < p.shown.length) := by
    rw [← shouldStop_iff, patient]
    exact Bool.false_ne_true
  rw [reach, reach]
  change max (p.choices.tail.length + (p.shown.length + 1)) _ ≤ _
  cases hc : p.choices with
  | nil =>
    have early : ¬patience < p.shown.length := fun late => going ⟨hc, late⟩
    rw [List.tail_nil, List.length_nil]
    omega
  | cons choice choices =>
    rw [List.tail_cons, List.length_cons]
    omega

/-- A script was held to an ending: what it was shown by then and which choices were made, each from
a number of offers. -/
structure Played (p : Script) (made : List (Nat × Nat)) (ending : Ending) (p' : Script) :
    Prop where
  shown : p'.shown.map (·.2.length) = (made.map (·.2)).reverse ++ p.shown.map (·.2.length)
  within_reach : p'.shown.length ≤ p.reach
  choice : ∀ (k : Nat) index offered, made[k]? = some (index, offered) →
    index = p.choices[k]?.getD (offered - 1)
  offers : ∀ index offered, (index, offered) ∈ made → 0 < offered
  beyond : ∀ (k : Nat) index offered, made[k]? = some (index, offered) → offered ≤ index →
    k + 1 = made.length ∧ ending = .broken (.noSuchResponse index offered)
  broken : ∀ index offered, ending = .broken (.noSuchResponse index offered) →
    ∃ k : Nat, made[k]? = some (index, offered) ∧ offered ≤ index

namespace Played

variable {p p' : Script}

/-- No cycle follows. -/
theorem nil {ending : Ending} (whole : ∀ fault, ending ≠ .broken fault) : p.Played [] ending p where
  shown := rfl
  within_reach := p.length_shown_le_reach
  choice := nofun
  offers := nofun
  beyond := nofun
  broken _ _ h := absurd h (whole _)

variable {line : String} {offers : List Offer} {index : Nat}

/-- A single cycle follows, which a fault breaks off. -/
theorem single {fault : Fault} (patient : Presenter.shouldStop p = false)
    (offering : 0 < offers.length) (choice : index = p.choices[0]?.getD (offers.length - 1))
    (faulty : ∀ index' offered, fault = .noSuchResponse index' offered ↔
      index = index' ∧ offers.length = offered ∧ offered ≤ index') :
    p.Played [(index, offers.length)] (.broken fault) (p.next line offers) where
  shown := rfl
  within_reach :=
    Nat.le_trans (p.next line offers).length_shown_le_reach (reach_next_le patient line offers)
  choice k index' offered h := by
    cases k with
    | zero =>
      cases h
      exact choice
    | succ k => cases h
  offers index' offered mem := by
    cases List.mem_singleton.1 mem
    exact offering
  beyond k index' offered h beyond := by
    cases k with
    | zero =>
      cases h
      exact ⟨rfl, congrArg _ ((faulty _ _).2 ⟨rfl, rfl, beyond⟩)⟩
    | succ k => cases h
  broken index' offered h := by
    obtain ⟨rfl, rfl, beyond⟩ := (faulty index' offered).1 (Ending.broken.inj h)
    exact ⟨0, rfl, beyond⟩

/-- A cycle with a choice that is on offer, and then the rest. -/
theorem cons {made : List (Nat × Nat)} {ending : Ending}
    (patient : Presenter.shouldStop p = false)
    (choice : index = p.choices[0]?.getD (offers.length - 1)) (within : index < offers.length)
    (rest : (p.next line offers).Played made ending p') :
    p.Played ((index, offers.length) :: made) ending p' where
  shown := by
    rw [rest.shown, List.map_cons, List.reverse_cons, List.append_assoc]
    rfl
  within_reach := Nat.le_trans rest.within_reach (reach_next_le patient line offers)
  choice k index' offered h := by
    cases k with
    | zero =>
      cases h
      exact choice
    | succ k =>
      rw [rest.choice k index' offered h]
      exact congrArg (fun choice : Option Nat => choice.getD (offered - 1)) List.getElem?_tail
  offers index' offered mem := by
    rcases List.mem_cons.1 mem with same | mem
    · cases same
      omega
    · exact rest.offers index' offered mem
  beyond k index' offered h beyond := by
    cases k with
    | zero =>
      cases h
      omega
    | succ k =>
      obtain ⟨last, ending⟩ := rest.beyond k index' offered h beyond
      exact ⟨congrArg (· + 1) last, ending⟩
  broken index' offered h := by
    obtain ⟨k, pick, beyond⟩ := rest.broken index' offered h
    exact ⟨k + 1, pick, beyond⟩

end Played

end Script

namespace Session

/-- In a cycle a script chooses from what the topic opens with. -/
theorem cycle_script (s : Session α β) (p : Script) :
    s.choice p = p.choices[0]?.getD (s.opening.1.2.length - 1) ∧
      s.cycle p = ((s.opening.2.select (s.choice p)).1, (s.opening.2.select (s.choice p)).2,
        p.next s.opening.1.1 s.opening.1.2) := by
  have presented := p.present_eq s.opening.1.1 s.opening.1.2
  exact ⟨congrArg Prod.fst presented, congrArg (fun r => (_, _, r)) (congrArg Prod.snd presented)⟩

/-- What a script has been shown, and what it has chosen, when a conversation has ended. -/
theorem played_run (fuel : Nat) (s : Session α β) (p : Script) :
    p.Played (during Operation.picked (script fuel s p) s) (run fuel s p).1 (run fuel s p).2.2 := by
  refine run_induction (P := fun s (p : Script) ops result =>
    p.Played (during Operation.picked ops s) result.1 result.2.2) ?_ ?_ ?_ ?_ ?_ fuel s p
  · exact fun _ _ _ => .nil nofun
  · exact fun _ _ _ _ => .nil nofun
  · exact fun _ _ _ _ => .nil nofun
  · intro s p s' p' fault _ patient h
    obtain ⟨choice, cycle⟩ := s.cycle_script p
    rw [h] at cycle
    obtain ⟨broken, rfl, rfl⟩ := by simpa only [Prod.mk.injEq] using cycle
    rw [picked_cycle, ← s.length_opening]
    refine .single patient s.opening_pos choice fun index offered => ?_
    rw [s.length_opening, ← select_eq_noSuchResponse, ← broken]
    exact ⟨congrArg _, Except.error.inj⟩
  · intro s p s' p' next ops result _ patient h rest
    obtain ⟨choice, cycle⟩ := s.cycle_script p
    have after := performAll_cycleOps h
    rw [h] at cycle
    obtain ⟨chosen, rfl, rfl⟩ := by simpa only [Prod.mk.injEq] using cycle
    rw [during_append, picked_cycle, after, ← s.length_opening]
    refine .cons patient choice ?_ rest
    -- To choose what is not on offer would have been a fault.
    refine Nat.not_le.1 fun beyond => ?_
    rw [s.length_opening] at beyond
    have broken := select_eq_noSuchResponse.2 ⟨rfl, rfl, beyond⟩
    rw [← chosen] at broken
    cases broken

/-- A script ends a conversation when it has been allowed as many cycles as it reaches. -/
theorem run_ne_unfinished {fuel : Nat} {s : Session α β} {p : Script}
    (enough : p.reach ≤ fuel + p.shown.length) : (run fuel s p).1 ≠ .unfinished := by
  induction fuel generalizing s p with
  | zero =>
    have tired : Presenter.shouldStop p = true := by
      rw [Script.reach] at enough
      exact Script.shouldStop_iff.2 ⟨List.length_eq_zero_iff.1 (by omega), by omega⟩
    cases finished : s.done with
    | true =>
      rw [run_of_done finished]
      simp
    | false =>
      rw [run_of_shouldStop finished tired]
      simp
  | succ fuel ih =>
    rw [run]
    split
    · simp
    · split
      · simp
      · rename_i patient
        obtain ⟨-, cycle⟩ := s.cycle_script p
        rw [cycle]
        split
        · rename_i h
          obtain ⟨-, rfl, rfl⟩ := by simpa only [Prod.mk.injEq] using h
          have closer := Script.reach_next_le (eq_false_of_ne_true patient) s.opening.1.1
            s.opening.1.2
          refine ih (Nat.le_trans closer ?_)
          rw [Script.next, List.length_cons]
          omega
        · simp

/-! ### Conversations that end -/

/-- Whatever the topics are, a conversation that is held by a script with `n` choices is over after
`n` or 65 cycles at most, whichever is more, and would be the same with more cycles allowed. In each
cycle the script makes its next choice, or takes the last offer if no choice is left; and the
conversation is broken off for a choice that is not on offer only by one that the script wrote. -/
theorem scripted_conversation_ends (s : Session α β) (choices : List Nat) (fuel : Nat) :
    let p : Script := { choices }
    let ending := (s.run fuel p).1
    let shown := (s.run fuel p).2.2.shown.reverse
    let made := during Operation.picked (script fuel s p) s
    performAll (script fuel s p) s = (s.run fuel p).2.1 ∧
      shown.length ≤ max choices.length 65 ∧
      (max choices.length 65 ≤ fuel → ending ≠ .unfinished ∧ s.run fuel p = s.runScript choices) ∧
      made.map (·.2) = shown.map (·.2.length) ∧
      (∀ (k : Nat) index offered, made[k]? = some (index, offered) →
        0 < offered ∧ index = choices[k]?.getD (offered - 1) ∧
          (offered ≤ index → choices[k]? = some index ∧ k + 1 = shown.length ∧
            ending = .broken (.noSuchResponse index offered))) ∧
      ∀ index offered, ending = .broken (.noSuchResponse index offered) →
        ∃ k : Nat, made[k]? = some (index, offered) ∧ choices[k]? = some index ∧
          offered ≤ index := by
  intro p ending shown made
  have played : p.Played made ending (s.run fuel p).2.2 := s.played_run fuel p
  have counted : made.map (·.2) = shown.map (·.2.length) := by
    have before : p.shown = [] := rfl
    rw [List.map_reverse, played.shown, before, List.map_nil, List.append_nil,
      List.reverse_reverse]
  have length : made.length = shown.length := by
    simpa only [List.length_map] using congrArg List.length counted
  have scripted : ∀ (k : Nat) index offered, made[k]? = some (index, offered) → offered ≤ index →
      choices[k]? = some index := by
    intro k index offered pick beyond
    have pos := played.offers index offered (List.mem_of_getElem? pick)
    have choice : index = choices[k]?.getD (offered - 1) := played.choice k index offered pick
    cases hc : choices[k]? with
    | some choice' => rw [choice, hc, Option.getD_some]
    | none =>
      -- The last offer is on offer.
      rw [hc, Option.getD_none] at choice
      omega
  refine ⟨(run_eq_performAll fuel s p).symm, ?_, ?_, counted, ?_, ?_⟩
  · rw [List.length_reverse]
    exact played.within_reach
  · intro enough
    have ends : (s.runScript choices).1 ≠ .unfinished := run_ne_unfinished (Nat.le_refl _)
    obtain ⟨more, rfl⟩ := Nat.exists_eq_add_of_le enough
    have same : s.run (max choices.length 65 + more) p = s.runScript choices := run_add ends more
    refine ⟨?_, same⟩
    change (s.run _ p).1 ≠ .unfinished
    rw [same]
    exact ends
  · intro k index offered pick
    refine ⟨played.offers index offered (List.mem_of_getElem? pick),
      played.choice k index offered pick, fun beyond => ?_⟩
    obtain ⟨last, broken⟩ := played.beyond k index offered pick beyond
    exact ⟨scripted k index offered pick beyond, last.trans length, broken⟩
  · intro index offered broken
    obtain ⟨k, pick, beyond⟩ := played.broken index offered broken
    exact ⟨k, pick, scripted k index offered pick beyond, beyond⟩

/-- Someone goes round in a circle until the script asks for what is not on offer. -/
theorem circle_broken_by_script :
    let topic (id next : String) : Topic :=
      (Topic.new id).withResponse (.leadingTo "And else?" next)
    let registry := (Registry.empty.insert (topic "TALK" "NEWS")).insert (topic "NEWS" "TALK")
    let s : Session Player Npc := start (.ofSheet (.new "Bob")) (.ofSheet (.new "Ann")) .empty
      registry { firstTopic := "TALK" } 0
    let p : Script := { choices := [0, 0, 0, 7] }
    65 ≤ 70 ∧ s.run 70 p = s.runScript [0, 0, 0, 7] ∧
      (s.run 70 p).1 = .broken (.noSuchResponse 7 2) ∧
      ∃ k : Nat, (during Operation.picked (script 70 s p) s)[k]? = some (7, 2) ∧
        p.choices[k]? = some 7 ∧ 2 ≤ 7 := by
  intro topic registry s p
  obtain ⟨-, -, ends, -, -, broken⟩ := scripted_conversation_ends s [0, 0, 0, 7] 70
  have refused : (s.run 70 p).1 = .broken (.noSuchResponse 7 2) := by decide +kernel
  exact ⟨by decide, (ends (by decide)).2, refused, broken 7 2 refused⟩

end Session

end Parley
