import Parley.Proofs.Steps

/-!
# Content that was accepted

What was accepted as a condition, as a formula or as an effect names only variables that have a
store. So it fails only by the state that it meets, not by what is written in it.
-/

namespace Parley

open Act Failure

/-- A variable that an effect writes is one of its variables. -/
theorem EffectKind.mem_vars {kind : EffectKind} {var : Variable}
    (named : kind.written? = some var) : var ∈ kind.vars := by
  cases kind with
  | addVar | removeVar | adjustVar | setTextVar | arithmetic =>
    obtain rfl := Option.some.inj named
    exact .head _
  | _ => contradiction

section

variable {α β : Type} [Actor α] [Actor β] [Actor.InMemory α] [Actor.InMemory β]

/-- Whatever deeds make up an effect, it fails only by what the variables of its kind hold. -/
theorem EffectKind.Steps.failsOnly {kind : EffectKind} {t : Target} {m : Act α β Unit}
    (h : kind.Steps t m) : m.FailsOnly (OfEffect kind.vars) := by
  induction h with
  | peek first _ ih => exact first.fails.bind ih
  | write named => exact failsOnly_write (mem_vars named)
  | tell told => exact failsOnly_tell? told.refused
  | spendCash | action => exact failsOnly_tell
  | buyItem => exact failsOnly_buy
  | sellItem => exact failsOnly_sell
  | assignMission =>
    refine (failsOnly_tell? (Actor.refused_assignMission _)).bind fun _ => ?_
    exact failsOnly_tell? (Actor.refused_assignMission _)
  | finishMission =>
    refine (failsOnly_tell? (Actor.refused_finishMission _ _)).bind fun _ => ?_
    exact failsOnly_tell? (Actor.refused_finishMission _ _)
  | offerMission => exact failsOnly_tell? (Actor.refused_offerMission _)
  | addMission =>
    refine (failsOnly_tell? (Actor.refused_addMission _)).bind fun _ => ?_
    exact failsOnly_tell? (Actor.refused_assignMission _)
  | openDialogue => exact failsOnly_handOver
  | takeControl told => exact (failsOnly_tell? told.refused).bind fun _ => failsOnly_handOver

/-- Where an effect fails, a variable of it, a divisor or a refusal is to blame. -/
theorem Effect.failsOnly_execute (e : Effect) :
    (e.execute : Act α β Unit).FailsOnly (OfEffect e.kind.vars) := e.execute_steps.failsOnly

end

/-- A condition, a formula or an effect that content was accepted for names, however deep in it,
only variables that can be looked up. So in every scene and for every state of the random generator
the condition and the formula fail only because such a variable holds an unsuitable text or because
of a division by zero. An effect between actors kept in memory may also be refused by one of them;
but nothing is wrong any more with the content itself. -/
theorem accepted_content_fails_by_state (j : Json) :
    (∀ c, Condition.ofJson j = .ok c → AllUsable c.vars ∧
      ∀ {α β : Type} [Actor α] [Actor β] (s : Scene α β) (item : Option String),
        (c.evaluate s item).FailsOnly (Failure.OfStored c.vars)) ∧
    (∀ f, Formula.ofJson j = .ok f → AllUsable f.vars ∧
      ∀ {α β : Type} [Actor α] [Actor β] (s : Scene α β),
        (f.evaluate s).FailsOnly (Failure.OfStored f.vars)) ∧
    ∀ e, Effect.ofJson j = .ok e → AllUsable e.kind.vars ∧
      ∀ {α β : Type} [Actor α] [Actor β] [Actor.InMemory α] [Actor.InMemory β],
        (e.execute : Act α β Unit).FailsOnly fun failure =>
          (failure.OfStored e.kind.vars ∨ failure.IsRefusal) ∧ ¬failure.IsOfContent := by
  refine ⟨fun c accepted => ?_, fun f accepted => ?_, fun e accepted => ?_⟩
  · have usable : AllUsable c.vars := Condition.ofJson_usable j c accepted
    refine ⟨usable, fun s item => ?_⟩
    exact (c.failsOnly_evaluate (.refl _)).imp fun failure h => h.ofStored usable
  · have usable : AllUsable f.vars := Formula.ofJson_usable j f accepted
    refine ⟨usable, fun s => ?_⟩
    exact (f.failsOnly_evaluate (.refl _)).imp fun failure h => h.ofStored usable
  · have usable : AllUsable e.kind.vars := Effect.ofJson_usable j e accepted
    refine ⟨usable, e.failsOnly_execute.imp fun failure h => ?_⟩
    rcases h with value | refusal
    · have stored := value.ofStored usable
      exact ⟨.inl stored, stored.not_isOfContent⟩
    · exact ⟨.inr refusal, refusal.not_isOfContent⟩

/-- Nested references are accepted, and fail by a text that is no number and by a zero divisor. -/
theorem nested_references_fail_by_state :
    let stored := Json.object [("var", .str "m"), ("default", .num (.int 0))]
    let quotient := Json.object [("op", .str "/"), ("args", .arr [.num (.int 10), stored])]
    let counter := Json.object [("var", .str "n"), ("var_type", .str "counter"),
      ("scope", .str "global"), ("default", .num (.int 1))]
    let range := Json.object [("min", .num (.int 1)), ("max", counter)]
    let least := Json.object [("type", .str "compare_int"), ("lhs", stored), ("op", .str "<"),
      ("rhs", range)]
    let condition := Json.object [("type", .str "not"), ("condition",
      .object [("type", .str "and"), ("conditions", .arr [.bool true, least])])]
    let effect := Json.object [("type", .str "arithmetic"), ("var", .str "x"), ("op", .str "="),
      ("expr", quotient)]
    let scene : Scene Player Npc :=
      { u := .ofSheet (.new "Bob"), npc := .ofSheet (.new "Ann"),
        globals := Dict.empty.insert "counter_n" "many", current := { id := "TALK" }, earlier := [],
        missionsAssigned := [], byRadio := false }
    let g := Generator.ofSeed 1
    (∃ c, Condition.ofJson condition = .ok c ∧ c.vars = [⟨.u, "m"⟩, ⟨.global, "counter_n"⟩] ∧
      AllUsable c.vars ∧ ∃ failure,
        ((c.evaluate scene none).run.run g).1 = .error failure ∧ failure.OfStored c.vars) ∧
    (∃ f, Formula.ofJson quotient = .ok f ∧ f.vars = [⟨.u, "m"⟩] ∧ AllUsable f.vars ∧
      ∃ failure, ((f.evaluate scene).run.run g).1 = .error failure ∧ failure.OfStored f.vars) ∧
    ∃ e, Effect.ofJson effect = .ok e ∧ e.kind.vars = [⟨.u, "x"⟩, ⟨.u, "m"⟩] ∧
      AllUsable e.kind.vars ∧ ∃ failure,
        (e.execute.perform ⟨scene, g, none⟩).1 = .error failure ∧ ¬failure.IsOfContent := by
  intro stored quotient counter range least condition effect scene g
  have accepted {γ : Type} {x : Except Failure γ} {p : γ → Bool}
      (h : x.toOption.any p = true) : ∃ a, x = .ok a ∧ p a = true := by
    cases x with
    | ok a => exact ⟨a, rfl, h⟩
    | error failure => contradiction
  have failing {γ : Type} {x : Except Failure γ} (h : x.toOption.isNone = true) :
      ∃ failure, x = .error failure := by
    cases x with
    | ok a => contradiction
    | error failure => exact ⟨failure, rfl⟩
  refine ⟨?_, ?_, ?_⟩
  · obtain ⟨c, hc, holds⟩ := accepted (x := Condition.ofJson condition)
      (p := fun c => c.vars = [⟨.u, "m"⟩, ⟨.global, "counter_n"⟩] ∧
        ((c.evaluate scene none).run.run g).1.toOption.isNone) (by decide +kernel)
    obtain ⟨vars, fails⟩ := of_decide_eq_true holds
    obtain ⟨usable, only⟩ := (accepted_content_fails_by_state condition).1 c hc
    obtain ⟨failure, h⟩ := failing fails
    exact ⟨c, hc, vars, usable, failure, h, only scene none g failure h⟩
  · obtain ⟨f, hf, holds⟩ := accepted (x := Formula.ofJson quotient)
      (p := fun f => f.vars = [⟨.u, "m"⟩] ∧
        ((f.evaluate scene).run.run g).1.toOption.isNone) (by decide +kernel)
    obtain ⟨vars, fails⟩ := of_decide_eq_true holds
    obtain ⟨usable, only⟩ := (accepted_content_fails_by_state quotient).2.1 f hf
    obtain ⟨failure, h⟩ := failing fails
    exact ⟨f, hf, vars, usable, failure, h, only scene g failure h⟩
  · obtain ⟨e, he, holds⟩ := accepted (x := Effect.ofJson effect)
      (p := fun e => e.kind.vars = [⟨.u, "x"⟩, ⟨.u, "m"⟩] ∧
        (e.execute.perform ⟨scene, g, none⟩).1.toOption.isNone) (by decide +kernel)
    obtain ⟨vars, fails⟩ := of_decide_eq_true holds
    obtain ⟨usable, only⟩ := (accepted_content_fails_by_state effect).2.2 e he
    obtain ⟨failure, h⟩ := failing fails
    exact ⟨e, he, vars, usable, failure, h, (only ⟨scene, g, none⟩ failure h).2⟩

end Parley
