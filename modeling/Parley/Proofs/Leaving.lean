import Parley.Actor.Npc
import Parley.Actor.Player
import Parley.Proofs.Places

/-!
# Leaving a conversation

A response is looked for by which the conversation is best left: the first one that ends it for
sure, else the first one that ends it when its trial succeeds. A response that is the only one on
offer is taken for such a response whatever it leads to.
-/

namespace Parley

/-- The place is the first one in a list where the property holds. -/
def IsFirst {γ : Type} (p : γ → Prop) (l : List γ) (place : Nat) : Prop :=
  (∃ a ∈ l[place]?, p a) ∧ ∀ j < place, ∀ a ∈ l[j]?, ¬p a

theorem isFirst_zero {γ : Type} {p : γ → Prop} {a : γ} {l : List γ} (h : p a) :
    IsFirst p (a :: l) 0 := ⟨⟨a, rfl, h⟩, fun _ less => absurd less (Nat.not_lt_zero _)⟩

theorem findIdx?_eq_some_iff_isFirst {γ : Type} {p : γ → Bool} {q : γ → Prop}
    (same : ∀ a, p a = true ↔ q a) {l : List γ} {place : Nat} :
    l.findIdx? p = some place ↔ IsFirst q l place := by
  rw [List.findIdx?_eq_some_iff_getElem]
  constructor
  · rintro ⟨bound, here, before⟩
    refine ⟨⟨l[place], List.getElem?_eq_getElem bound, (same _).1 here⟩, fun j less a mem => ?_⟩
    obtain ⟨_, rfl⟩ := List.getElem?_eq_some_iff.1 mem
    exact mt (same _).2 (before j less)
  · rintro ⟨⟨a, mem, here⟩, before⟩
    obtain ⟨bound, rfl⟩ := List.getElem?_eq_some_iff.1 mem
    refine ⟨bound, (same _).2 here, fun j less => mt (same _).1 ?_⟩
    exact before j less _ (List.getElem?_eq_getElem _)

theorem findIdx?_eq_none_iff_forall {γ : Type} {p : γ → Bool} {q : γ → Prop}
    (same : ∀ a, p a = true ↔ q a) {l : List γ} :
    l.findIdx? p = none ↔ ∀ a ∈ l, ¬q a := by
  simp only [List.findIdx?_eq_none_iff, ← Bool.not_eq_true, same]

namespace Response

/-- When it succeeds, the response leads out of the conversation. -/
def LeadsOut (r : Response) : Prop := r.success.nextTopic = endTalk

instance (r : Response) : Decidable r.LeadsOut := inferInstanceAs (Decidable (_ = _))

/-- The response leads out of the conversation, and there is no trial that it could fail. -/
def SurelyLeadsOut (r : Response) : Prop := r.LeadsOut ∧ r.trial.isActive = false

/-- A response says that it ends the conversation if it surely leads out. -/
theorem endsConversation_iff (r : Response) : r.endsConversation = true ↔ r.SurelyLeadsOut := by
  rw [endsConversation, Bool.and_eq_true, decide_eq_true_eq, Bool.not_eq_true']
  rfl

end Response

namespace Session

variable {α β : Type} {s : Session α β}

/-- At the place is the first response that surely leads out of the conversation; where none on
offer does, it is the first one that leads out at all. -/
def IsBestExit (s : Session α β) (place : Nat) : Prop :=
  IsFirst Response.SurelyLeadsOut s.responses place ∨
    (∀ r ∈ s.responses, ¬r.SurelyLeadsOut) ∧ IsFirst Response.LeadsOut s.responses place

/-- There is a single response, and it does not lead out of the conversation. -/
def Cornered (s : Session α β) : Prop := ∃ r, s.responses = [r] ∧ ¬r.LeadsOut

/-- The place that is found by looking for a sure exit and then for any exit. -/
def exit? (s : Session α β) : Option Nat :=
  (s.responses.findIdx? Response.endsConversation).or
    (s.responses.findIdx? (·.success.nextTopic = endTalk))

/-- The exit that is searched for is the best one. -/
theorem exit?_eq_some_iff {place : Nat} : s.exit? = some place ↔ s.IsBestExit place := by
  rw [exit?, Option.or_eq_some_iff, IsBestExit,
    findIdx?_eq_some_iff_isFirst Response.endsConversation_iff,
    findIdx?_eq_none_iff_forall Response.endsConversation_iff,
    findIdx?_eq_some_iff_isFirst fun r => decide_eq_true_iff]
  rfl

/-- No exit is found only where no response leads out. -/
theorem exit?_eq_none_iff : s.exit? = none ↔ ∀ r ∈ s.responses, ¬r.LeadsOut := by
  rw [exit?, Option.or_eq_none_iff, findIdx?_eq_none_iff_forall Response.endsConversation_iff,
    findIdx?_eq_none_iff_forall fun r => decide_eq_true_iff]
  exact and_iff_right_of_imp fun none r mem sure => none r mem sure.1

/-- A single response is taken without a look at it. -/
theorem bestQuit_of_single {r : Response} (h : s.responses = [r]) : s.bestQuit = some 0 := by
  rw [bestQuit, h]
  rfl

theorem bestQuit_of_not_single (h : s.responses.length ≠ 1) : s.bestQuit = s.exit? := if_neg h

theorem exit?_of_single {r : Response} (h : s.responses = [r]) (out : r.LeadsOut) :
    s.exit? = some 0 := by
  rw [exit?_eq_some_iff, IsBestExit, h]
  cases trial : r.trial.isActive with
  | false => exact .inl (isFirst_zero ⟨out, trial⟩)
  | true =>
    refine .inr ⟨fun r' mem sure => ?_, isFirst_zero out⟩
    obtain rfl := List.mem_singleton.1 mem
    cases trial.symm.trans sure.2

/-- Whoever is not cornered leaves by the exit that is found. -/
theorem bestQuit_of_not_cornered (h : ¬s.Cornered) : s.bestQuit = s.exit? := by
  by_cases single : s.responses.length = 1
  · obtain ⟨r, all⟩ := List.length_eq_one_iff.1 single
    have out : r.LeadsOut := Decidable.of_not_not fun stays => h ⟨r, all, stays⟩
    rw [bestQuit_of_single all, exit?_of_single all out]
  · exact bestQuit_of_not_single single

/-- One is cornered by a topic that replaces the farewell and shows a single response that leads
nowhere. -/
theorem cornered_withFarewell_iff {t : Topic} {shown : List Response} {s' : Session α β}
    (h : s'.responses = s.withFarewell t shown) :
    s'.Cornered ↔ t.replacesBuiltIn = true ∧ ∃ r, shown = [r] ∧ ¬r.LeadsOut := by
  have farewell : s.farewell.LeadsOut := rfl
  rw [Cornered, h, withFarewell]
  split
  · rename_i replaced
    exact (and_iff_right replaced.1).symm
  · rename_i added
    refine iff_of_false ?_ ?_
    · rintro ⟨r, all, stays⟩
      have mem : s.farewell ∈ [r] := all ▸ List.mem_append_right shown (.head [])
      obtain rfl := List.mem_singleton.1 mem
      exact stays farewell
    · rintro ⟨replaced, r, rfl, -⟩
      exact added ⟨replaced, List.cons_ne_nil r []⟩

/-- The conversation is best left by the exit that the two searches find, exactly if it is not the
case that a single response is on offer and does not lead out. That one is taken for an exit. After
the responses of the topic have been offered, it is on offer if the topic does without the farewell
and nothing else is visible. -/
theorem best_exit_unless_cornered [Actor α] [Actor β] (s : Session α β) :
    (((∀ place, s.bestQuit = some place ↔ s.IsBestExit place) ∧
        (s.bestQuit = none ↔ ∀ r ∈ s.responses, ¬r.LeadsOut)) ↔ ¬s.Cornered) ∧
      (s.Cornered → s.bestQuit = some 0) ∧
      (s.generate.Cornered ↔ ∃ t ∈ s.topic?, t.replacesBuiltIn = true ∧
        ∃ r, (visible s.scene t s.encounter.generator).1 = [r] ∧ ¬r.LeadsOut) := by
  refine ⟨⟨?_, fun free => ?_⟩, ?_, ?_⟩
  · rintro ⟨-, none_iff⟩ ⟨r, all, stays⟩
    have nothing : s.bestQuit = none := none_iff.2 (by simpa [all] using stays)
    rw [bestQuit_of_single all] at nothing
    contradiction
  · rw [bestQuit_of_not_cornered free]
    exact ⟨fun place => exit?_eq_some_iff, exit?_eq_none_iff⟩
  · rintro ⟨r, all, -⟩
    exact bestQuit_of_single all
  · cases known : s.topic? with
    | none =>
      refine iff_of_false ?_ nofun
      rintro ⟨r, all, stays⟩
      rw [s.generate_of_topic?_eq_none known] at all
      cases all
      exact stays rfl
    | some t =>
      rw [cornered_withFarewell_iff (s.generate_eq_withFarewell known)]
      constructor
      · exact fun h => ⟨t, rfl, h⟩
      · rintro ⟨t', mem, h⟩
        cases mem
        exact h

/-- The only thing that can be said leads nowhere, and is taken for the way out. -/
theorem stay_taken_for_exit :
    let topic : Topic :=
      { id := "TALK", replace? := some true, responses := [.leadingTo "Go on." stayHere] }
    let s : Session Player Npc := start (.ofSheet (.new "Bob")) (.ofSheet (.new "Ann")) .empty
      (Registry.empty.insertAll [topic]) { firstTopic := "TALK" } 0
    s.generate.bestQuit = some 0 ∧ ∀ r ∈ s.generate.responses, ¬r.LeadsOut := by
  decide +kernel

end Session

end Parley
