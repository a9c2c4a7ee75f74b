import Parley.Actor.Npc
import Parley.Actor.Player
import Parley.Conversation.Run
import Parley.Proofs.Operation

/-!
# Entering topics

A conversation goes through cycles, each of which carries out the speaker effects of the topic,
presents it and applies the choice. That happens on entering a topic, but again in the next cycle
if the choice stays on the topic.
-/

namespace Parley

/-! ### A run as operations -/

namespace Session

variable {α β π : Type} [Actor α] [Actor β] [Presenter π]

/-- The place of the response that the presenter chooses in a cycle. -/
def choice (s : Session α β) (p : π) : Nat :=
  let ((line, offers), s) := s.opening
  (Presenter.present p (Actor.name s.scene.npc) line offers).1

/-- The operations of one cycle. -/
def cycleOps (s : Session α β) (p : π) : List Operation :=
  [.speak, .say, .generate, .offer, .choose (s.choice p)]

theorem cycle_eq (s : Session α β) (p : π) :
    (s.cycle p).1 =
        ((performAll [.speak, .say, .generate, .offer] s).select (s.choice p)).1 ∧
      (s.cycle p).2.1 = performAll (s.cycleOps p) s := ⟨rfl, rfl⟩

/-- A cycle of a run is the operations of that cycle, whatever the presenter chooses. -/
theorem performAll_cycleOps {s s' : Session α β} {p p' : π} {result : Except Fault String}
    (h : s.cycle p = (result, s', p')) : performAll (s.cycleOps p) s = s' :=
  (s.cycle_eq p).2.symm.trans (congrArg (·.2.1) h)

/-- The operations of a run. -/
def script : Nat → Session α β → π → List Operation
  | 0, _, _ => []
  | fuel + 1, s, p =>
    if s.done then []
    else if Presenter.shouldStop p then []
    else s.cycleOps p ++ match s.cycle p with
      | (.ok _, s, p) => script fuel s p
      | (.error _, _, _) => []

/-- What holds of a run without cycles, and of a run with one cycle more if it holds of the rest,
holds of every run with its operations. -/
theorem run_induction
    {P : Session α β → π → List Operation → Ending × Session α β × π → Prop}
    (finished : ∀ s p, s.done = true → P s p [] (.over, s, p))
    (stopped : ∀ s p, s.done = false → Presenter.shouldStop p = true → P s p [] (.stopped, s, p))
    (unfinished : ∀ s p, s.done = false → Presenter.shouldStop p = false →
      P s p [] (.unfinished, s, p))
    (broken : ∀ s p s' p' fault, s.done = false → Presenter.shouldStop p = false →
      s.cycle p = (.error fault, s', p') → P s p (s.cycleOps p) (.broken fault, s', p'))
    (goes : ∀ s p s' p' next ops result, s.done = false → Presenter.shouldStop p = false →
      s.cycle p = (.ok next, s', p') → P s' p' ops result → P s p (s.cycleOps p ++ ops) result)
    (fuel : Nat) (s : Session α β) (p : π) : P s p (script fuel s p) (run fuel s p) := by
  induction fuel generalizing s p with
  | zero =>
    rw [script, run]
    cases going : s.done with
    | true => exact finished s p going
    | false =>
      cases patient : Presenter.shouldStop p with
      | true => exact stopped s p going patient
      | false => exact unfinished s p going patient
  | succ fuel ih =>
    rw [script, run]
    cases going : s.done with
    | true => exact finished s p going
    | false =>
      cases patient : Presenter.shouldStop p with
      | true => exact stopped s p going patient
      | false =>
        simp only [Bool.false_eq_true, if_false]
        rcases h : s.cycle p with ⟨fault | next, s', p'⟩
        · dsimp only
          rw [List.append_nil]
          exact broken s p s' p' fault going patient h
        · exact goes s p s' p' next _ _ going patient h (ih s' p')

/-- A run does nothing but its operations. -/
theorem run_eq_performAll (fuel : Nat) (s : Session α β) (p : π) :
    (run fuel s p).2.1 = performAll (script fuel s p) s := by
  refine run_induction (P := fun s p ops result => result.2.1 = performAll ops s)
    (fun _ _ _ => rfl) (fun _ _ _ _ => rfl) (fun _ _ _ _ => rfl) ?_ ?_ fuel s p
  · intro s p s' p' fault _ _ h
    exact (performAll_cycleOps h).symm
  · intro s p s' p' next ops result _ _ h rest
    rw [performAll_append, performAll_cycleOps h]
    exact rest

/-- A run does nothing to a conversation that is over. -/
theorem run_of_done {s : Session α β} (finished : s.done = true) (fuel : Nat) (p : π) :
    run fuel s p = (.over, s, p) := by
  cases fuel with
  | zero => rw [run, if_pos finished]
  | succ fuel => rw [run, if_pos finished]

theorem run_of_shouldStop {s : Session α β} {p : π} (going : s.done = false)
    (tired : Presenter.shouldStop p = true) (fuel : Nat) : run fuel s p = (.stopped, s, p) := by
  cases fuel with
  | zero => rw [run, going, if_neg Bool.false_ne_true, if_pos tired]
  | succ fuel => rw [run, going, if_neg Bool.false_ne_true, if_pos tired]

/-- A run that has ended does not go on, however many more cycles are allowed. -/
theorem run_add {fuel : Nat} {s : Session α β} {p : π} (ended : (run fuel s p).1 ≠ .unfinished)
    (more : Nat) : run (fuel + more) s p = run fuel s p := by
  induction fuel generalizing s p with
  | zero =>
    cases going : s.done with
    | true => rw [run_of_done going, run_of_done going]
    | false =>
      cases patient : Presenter.shouldStop p with
      | true => rw [run_of_shouldStop going patient, run_of_shouldStop going patient]
      | false =>
        rw [run, going, patient] at ended
        exact absurd rfl ended
  | succ fuel ih =>
    rw [Nat.succ_add]
    rw [run] at ended ⊢
    rw [run]
    split
    · rfl
    · rename_i going
      rw [if_neg going] at ended
      split
      · rfl
      · rename_i patient
        rw [if_neg patient] at ended
        split
        · rename_i next s' p' h
          rw [h] at ended
          exact ih ended
        · rfl

end Session

/-! ### Passes and stays -/

namespace Operation

variable {α β : Type} [Actor α] [Actor β]

/-- The topic whose speaker effects an operation carries out. -/
def passed (op : Operation) (s : Session α β) : List String :=
  match op with
  | .speak => [s.scene.current.id]
  | _ => []

/-- The topic on which a choice stays. -/
def stayed (op : Operation) (s : Session α β) : List String :=
  match op with
  | .choose index => match (s.select index).1 with
    | .ok next => if next = stayHere then [s.scene.current.id] else []
    | .error _ => []
  | _ => []

end Operation

namespace Session

variable {α β π : Type} [Actor α] [Actor β] [Presenter π]

/-- Up to the choice, a cycle enters no topic and ends nothing. -/
theorem presented_entries (s : Session α β) :
    (performAll [.speak, .say, .generate, .offer] s).scene.entries = s.scene.entries ∧
      (performAll [.speak, .say, .generate, .offer] s).done = s.done := by
  obtain ⟨encounter, spoken⟩ := s.applySpeakerEffects_eq
  obtain ⟨g, said⟩ := s.applySpeakerEffects.line_eq
  obtain ⟨g', responses, generated⟩ := s.applySpeakerEffects.line.2.generate_eq
  constructor
  · change s.applySpeakerEffects.line.2.generate.scene.entries = s.scene.entries
    rw [generated]
    change s.applySpeakerEffects.line.2.scene.entries = s.scene.entries
    rw [said]
    exact s.applySpeakerEffects_framed.entries
  · change s.applySpeakerEffects.line.2.generate.done = s.done
    rw [generated]
    change s.applySpeakerEffects.line.2.done = s.done
    rw [said, spoken]
    rfl

/-- What a choice does to the topics: a fault leaves them alone, and so do the end and a stay; to go
on enters one more. -/
theorem select_enters (s : Session α β) (index : Nat) :
    (∃ fault, (s.select index).1 = .error fault ∧
      (s.select index).2.scene.entries = s.scene.entries) ∨
    ∃ next, (s.select index).1 = .ok next ∧
      (next = endTalk ∧ (s.select index).2.done = true ∧
        (s.select index).2.scene.entries = s.scene.entries ∨
      next = stayHere ∧ (s.select index).2.done = s.done ∧
        (s.select index).2.scene.entries = s.scene.entries ∨
      next ≠ stayHere ∧ (s.select index).2.done = s.done ∧
        ∃ entry : Entry, entry.id = next ∧
          (s.select index).2.scene.entries = s.scene.entries ++ [entry]) := by
  cases hr : s.responses[index]? with
  | none =>
    rw [select_of_none hr]
    exact .inl ⟨_, rfl, rfl⟩
  | some r =>
    rcases select_entries hr with ⟨fault, -, broken, same⟩ | ⟨next, chosen, cases⟩
    · exact .inl ⟨fault, broken, same⟩
    · refine .inr ⟨next, chosen, ?_⟩
      rcases cases with ⟨ends, done, -, same⟩ | stay | ⟨-, goes, done, more⟩
      · exact .inl ⟨ends, done, same⟩
      · exact .inr (.inl stay)
      · exact .inr (.inr ⟨goes, done, _, rfl, more⟩)

/-! ### Counting -/

theorem stayed_of_ok {s : Session α β} {index : Nat} {next : String}
    (chosen : (s.select index).1 = .ok next) :
    (Operation.choose index).stayed s = if next = stayHere then [s.scene.current.id] else [] := by
  change (match (s.select index).1 with
    | .ok next => if next = stayHere then [s.scene.current.id] else []
    | .error _ => []) = _
  rw [chosen]

theorem stayed_of_error {s : Session α β} {index : Nat} {fault : Fault}
    (broken : (s.select index).1 = .error fault) : (Operation.choose index).stayed s = [] := by
  change (match (s.select index).1 with
    | .ok next => if next = stayHere then [s.scene.current.id] else []
    | .error _ => []) = _
  rw [broken]

/-- How often a topic was entered. -/
def timesEntered (s : Session α β) (id : String) : Nat := (s.scene.entries.map (·.id)).count id

/-- One if the conversation goes on at a topic, so that the pass of the topic is yet to come. -/
def awaits (s : Session α β) (id : String) : Nat :=
  if s.done = false then [s.scene.current.id].count id else 0

/-- After a choice the pass of a topic is yet to come if the topic was entered or stayed on. -/
theorem select_balance {s : Session α β} (going : s.done = false) {index : Nat} {next : String}
    (chosen : (s.select index).1 = .ok next) (id : String) :
    s.timesEntered id + (s.select index).2.awaits id =
      (s.select index).2.timesEntered id +
        ((Operation.choose index).stayed s).count id := by
  rw [stayed_of_ok chosen]
  rw [timesEntered, timesEntered, awaits]
  rcases s.select_enters index with ⟨fault, broken, -⟩ | ⟨next', chosen', cases⟩
  · rw [broken] at chosen
    contradiction
  · obtain rfl : next' = next := Except.ok.inj (chosen'.symm.trans chosen)
    rcases cases with ⟨rfl, done, same⟩ | ⟨rfl, done, same⟩ | ⟨goes, done, entry, rfl, more⟩
    · rw [done, same]
      rfl
    · rw [done, same, if_pos going, if_pos rfl, current_of_entries same]
    · rw [done, more, if_pos going, if_neg goes, current_of_entries more, List.map_append,
        List.count_append]
      rfl

omit [Actor α] [Actor β] in
theorem timesEntered_of_entries {s s' : Session α β} (h : s'.scene.entries = s.scene.entries)
    (id : String) : s'.timesEntered id = s.timesEntered id := by
  rw [timesEntered, timesEntered]
  rw [h]

/-- In every cycle the topic on top is passed once. -/
theorem passed_cycle (s : Session α β) (p : π) :
    during Operation.passed (s.cycleOps p) s = [s.scene.current.id] := rfl

theorem stayed_cycle (s : Session α β) (p : π) :
    during Operation.stayed (s.cycleOps p) s =
      (Operation.choose (s.choice p)).stayed
        (performAll [.speak, .say, .generate, .offer] s) := List.append_nil _

/-- After a cycle the pass of a topic is yet to come if the topic was entered or stayed on. -/
theorem cycle_balance {s s' : Session α β} (going : s.done = false) {p p' : π} {next : String}
    (h : s.cycle p = (.ok next, s', p')) (id : String) :
    s.timesEntered id + s'.awaits id =
      s'.timesEntered id + (during Operation.stayed (s.cycleOps p) s).count id := by
  obtain ⟨entries, done⟩ := s.presented_entries
  obtain ⟨chosen, after⟩ := s.cycle_eq p
  rw [h] at chosen after
  have balance := select_balance (done.trans going) chosen.symm id
  rw [stayed_cycle, ← timesEntered_of_entries entries]
  obtain rfl : s' = _ := after
  exact balance

/-- A cycle that a fault breaks off enters no topic and stays on none. -/
theorem cycle_broken {s s' : Session α β} {p p' : π} {fault : Fault}
    (h : s.cycle p = (.error fault, s', p')) (id : String) :
    s'.timesEntered id = s.timesEntered id ∧
      during Operation.stayed (s.cycleOps p) s = [] := by
  obtain ⟨entries, -⟩ := s.presented_entries
  obtain ⟨broken, after⟩ := s.cycle_eq p
  rw [h] at broken after
  rw [stayed_cycle]
  refine ⟨?_, stayed_of_error broken.symm⟩
  rw [← timesEntered_of_entries entries]
  obtain rfl : s' = _ := after
  refine timesEntered_of_entries ?_ id
  rcases select_enters (performAll [.speak, .say, .generate, .offer] s) (s.choice p) with
    ⟨-, -, same⟩ | ⟨next, chosen, -⟩
  · exact same
  · rw [← broken] at chosen
    contradiction

/-- One if a run ended at a topic whose pass was yet to come. -/
def pending (ending : Ending) (s : Session α β) (id : String) : Nat :=
  match ending with
  | .stopped | .unfinished => s.awaits id
  | .over | .broken _ => 0

/-- Each cycle makes the pass that was yet to come before it, and so on until none comes. -/
theorem run_balance (fuel : Nat) (s : Session α β) (p : π) (id : String) :
    (during Operation.passed (script fuel s p) s).count id + s.timesEntered id +
        pending (run fuel s p).1 (run fuel s p).2.1 id =
      (run fuel s p).2.1.timesEntered id +
        (during Operation.stayed (script fuel s p) s).count id + s.awaits id := by
  refine run_induction (P := fun s p ops result =>
    (during Operation.passed ops s).count id + s.timesEntered id + pending result.1 result.2.1 id =
      result.2.1.timesEntered id + (during Operation.stayed ops s).count id + s.awaits id)
    ?_ ?_ ?_ ?_ ?_ fuel s p
  · intro s p finished
    simp [during, pending, awaits, finished]
  · intro s p _ _
    simp [during, pending]
  · intro s p _ _
    simp [during, pending]
  · intro s p s' p' fault going _ h
    have here : s.awaits id = [s.scene.current.id].count id := if_pos going
    obtain ⟨same, none⟩ := cycle_broken h id
    rw [passed_cycle, none, same, here]
    simp only [pending, List.count_nil]
    omega
  · intro s p s' p' next ops result going _ h rest
    have here : s.awaits id = [s.scene.current.id].count id := if_pos going
    have step := cycle_balance going h id
    rw [during_append, during_append, performAll_cycleOps h, passed_cycle, List.count_append,
      List.count_append, here]
    omega

/-! ### Passes in a conversation -/

/-- In a conversation the speaker effects of a topic have their pass once for each time that the
topic was entered, and once more for each choice that stayed on it, except for a pass that is yet to
come when the presenter wants to stop. So they have it once for each entry exactly if no choice
stayed on the topic, save for one after which the presenter stopped. -/
theorem passes_of_run (s : Session α β) (p : π) (fuel : Nat) (id : String)
    (fresh : s.scene.earlier = []) (going : s.done = false) :
    let ops := script fuel s p
    let ending := (run fuel s p).1
    let s' := (run fuel s p).2.1
    let passes := (during Operation.passed ops s).count id
    let stays := (during Operation.stayed ops s).count id
    let entered := (s'.scene.entries.map (·.id)).count id
    performAll ops s = s' ∧ passes + pending ending s' id = entered + stays ∧
      (passes = entered ↔ stays = pending ending s' id) := by
  intro ops ending s' passes stays entered
  have seed : s.timesEntered id = s.awaits id := by
    unfold timesEntered awaits Scene.entries
    rw [fresh, if_pos going]
    rfl
  have balance : passes + s.timesEntered id + pending ending s' id =
      entered + stays + s.awaits id := run_balance fuel s p id
  refine ⟨(run_eq_performAll fuel s p).symm, by omega, by omega⟩

/-- In a conversation that goes to and fro between two topics each entry makes one pass. -/
theorem round_trip_passes :
    let topic (id next : String) : Topic :=
      (Topic.new id).withResponse (.leadingTo "And else?" next)
    let registry := (Registry.empty.insert (topic "TALK" "NEWS")).insert (topic "NEWS" "TALK")
    let s : Session Player Npc := start (.ofSheet (.new "Bob")) (.ofSheet (.new "Ann")) .empty
      registry { firstTopic := "TALK" } 0
    let p : Script := { choices := [0, 0, 1] }
    (run 3 s p).1 = .over ∧ ((run 3 s p).2.1.scene.entries.map (·.id)) = ["TALK", "NEWS", "TALK"] ∧
      (during Operation.passed (script 3 s p) s).count "TALK" =
        ((run 3 s p).2.1.scene.entries.map (·.id)).count "TALK" := by
  intro topic registry s p
  obtain ⟨-, -, once_each⟩ := passes_of_run s p 3 "TALK" rfl rfl
  exact ⟨by decide +kernel, by decide +kernel, once_each.2 (by decide +kernel)⟩

/-- A choice that stays on a topic which counts its visits makes it count another one. -/
theorem stay_counted_as_visit :
    let visits : Variable := ⟨.global, "visits"⟩
    let counting : SpeakerEffect :=
      ⟨none, [⟨.adjustVar visits (.single (.literal 1)), .u⟩], none⟩
    let topic : Topic :=
      { Topic.new "TALK" with
        speakerEffects := [counting], responses := [.leadingTo "Go on." stayHere] }
    let s : Session Player Npc := start (.ofSheet (.new "Bob")) (.ofSheet (.new "Ann")) .empty
      (Registry.empty.insert topic) { firstTopic := "TALK" } 0
    let p : Script := { choices := [0, 1] }
    let s' := (run 2 s p).2.1
    (run 2 s p).1 = .over ∧ s'.scene.entries.map (·.id) = ["TALK"] ∧
      during Operation.passed (script 2 s p) s = ["TALK", "TALK"] ∧
      s'.scene.globals.get? "visits" = some "2" := by
  intro visits counting topic s p s'
  decide +kernel

end Session

end Parley
