import Parley.Proofs.Aiming
import Parley.Proofs.Trade

/-!
# Hints at rewards

Before a response is chosen the player can be told what it is likely to bring: `likelyReward` says
so for one effect without carrying it out. Where the numbers of items are written down, the hints
are right. An effect that succeeds gives the player exactly what it hints at, and one without a hint
gives nothing; so an outcome gives no more than its hints add up to.
-/

namespace Parley

/-! ### Belongings that do not grow -/

/-- There is no more of any type than there was. -/
def Item.NoneGained (items items' : List Item) : Prop :=
  ∀ type, units type items' ≤ units type items

namespace Item.NoneGained

variable {items items' items'' : List Item}

theorem refl (items : List Item) : NoneGained items items := fun _ => Nat.le_refl _

theorem of_eq (h : items' = items) : NoneGained items items' := h ▸ refl items

theorem trans (h : NoneGained items items') (h' : NoneGained items' items'') :
    NoneGained items items'' := fun type => (h' type).trans (h type)

end Item.NoneGained

/-- Taking items away adds none. -/
theorem Item.noneGained_remove (type : String) (n : Nat) (items : List Item) :
    NoneGained items (remove type n items) := by
  intro type'
  by_cases same : type' = type
  · rw [same, units_remove_self]
    exact Nat.sub_le _ n
  · exact Nat.le_of_eq (units_remove_of_ne same n items)

/-- What cannot give an actor items leaves it with no more of any type. -/
theorem EffectKind.Alters.noneGained {kind : EffectKind} {t : Target} {s s' : Sheet}
    (change : kind.Alters t s s') (keeps : kind.gives t = false) :
    Item.NoneGained s.inventory s'.inventory := by
  cases change with
  | kept same => exact .of_eq same.inventory
  | addItem gives =>
    rw [keeps] at gives
    contradiction
  | @removeItems _ _ _ type n => exact Item.noneGained_remove type n s.inventory
  | write | addEffect | removeEffect | pay | modFatigue | addWet => exact .refl s.inventory

/-! ### Hints -/

/-- Is a reference to an integer a number as it is written? -/
def IntRef.isLiteral : IntRef → Bool
  | .single (.literal _) => true
  | _ => false

/-- If an effect spawns or buys items, is their number written down? -/
def EffectKind.isDefinite : EffectKind → Bool
  | .spawnItem _ _ count | .buyItem _ _ count _ => count.isLiteral
  | _ => true

/-- What hints add up to for a type, those at less than one item aside. -/
def hinted (type : String) : List (String × Int32) → Nat
  | [] => 0
  | (type', n) :: hints => (if type' = type then n.toInt.toNat else 0) + hinted type hints

theorem hinted_singleton (type type' : String) (n : Int32) :
    hinted type [(type', n)] = if type' = type then n.toInt.toNat else 0 := rfl

theorem hinted_append (type : String) (hints hints' : List (String × Int32)) :
    hinted type (hints ++ hints') = hinted type hints + hinted type hints' := by
  induction hints with
  | nil => exact (Nat.zero_add _).symm
  | cons hint hints ih => rw [List.cons_append, hinted, hinted, ih, Nat.add_assoc]

/-- The belongings grow as the effect hints: by the number of items of the type that it names, or
not at all. -/
def Effect.GivesAsHinted (e : Effect) (items items' : List Item) : Prop :=
  match e.likelyReward with
  | some (type, n) => 0 < n ∧ Item.units type items' = Item.units type items + n.toInt ∧
      ∀ type', type' ≠ type → Item.units type' items' = Item.units type' items
  | none => Item.NoneGained items items'

/-! ### Effects without a hint -/

namespace Effect

variable {α β : Type} [Actor α] [Actor β] [Actor.InMemory α]

open Act

/-- An effect without a hint gives the player nothing, be it by success or by failure. -/
theorem noneGained_attempt {e : Effect} (silent : e.likelyReward = none) (enc : Encounter α β) :
    Item.NoneGained (Actor.inventory enc.scene.u) (Actor.inventory (e.attempt enc).2.scene.u) := by
  cases gives : e.kind.gives .u with
  | false =>
    have kept := e.attempt_preserves (t := .u)
      (P := fun s => Item.NoneGained (enc.scene.sheet .u).inventory s.inventory) enc
      (fun change h => h.trans (change.noneGained gives)) (.refl _)
    rw [Actor.inventory_eq, Actor.inventory_eq]
    exact kept
  | true =>
    -- The hint is missing only where the items are spawned for the other speaker.
    obtain ⟨kind, target⟩ := e
    cases kind with
    | spawnItem item category count =>
      cases target with
      | u => contradiction
      | npc =>
        have spared := (execute_steps ⟨.spawnItem item category count, .npc⟩).aims rfl enc
        exact .of_eq (congrArg (Actor.inventory ·.scene.u) spared)
    | buyItem => contradiction
    | _ => contradiction

/-! ### Effects with a hint -/

omit [Actor.InMemory α] in
/-- A number that is written down comes to what is shown of it. -/
theorem eq_preview_of_yields {s : Scene α β} {ref : IntRef} {n : Int64}
    (definite : ref.isLiteral = true) (given : (ref.evaluate s).Yields n) : n = ref.preview := by
  unfold IntRef.isLiteral at definite
  split at definite
  · obtain ⟨g, g', run⟩ := given
    exact (Except.ok.inj (Prod.mk.inj run).1).symm
  · contradiction

/-- What is handed over is a stack of its own. -/
theorem givesAsHinted_of_gained {e : Effect} {items items' : List Item} {type category : String}
    {n : Int64} (hint : e.likelyReward = some (type, narrow n)) (some : 0 < n)
    (gained : items' = items ++ [.plain type category (narrow n)]) :
    e.GivesAsHinted items items' := by
  have pos : 0 < (narrow n).toInt := Int32.lt_iff_toInt_lt.1 (narrow_pos some)
  rw [GivesAsHinted, hint]
  refine ⟨narrow_pos some, ?_, fun type' other => ?_⟩
  · rw [gained, Item.units_append, Item.units_plain, if_pos rfl]
    omega
  · rw [gained, Item.units_append, Item.units_plain, if_neg other.symm, Nat.add_zero]

/-- A definite effect that succeeds gives the player what its hint says, and nothing else. -/
theorem givesAsHinted_of_succeeds {e : Effect} {enc enc' : Encounter α β}
    (definite : e.kind.isDefinite = true) (h : e.execute.Succeeds enc () enc') :
    e.GivesAsHinted (Actor.inventory enc.scene.u) (Actor.inventory enc'.scene.u) := by
  cases hint : e.likelyReward with
  | none =>
    have spared := noneGained_attempt hint enc
    rw [attempt_of_succeeds h] at spared
    rw [GivesAsHinted, hint]
    exact spared
  | some reward =>
    obtain ⟨kind, target⟩ := e
    cases kind with
    | spawnItem type category count =>
      cases target with
      | npc => contradiction
      | u =>
        obtain ⟨_, enc₁, counted, h⟩ := succeeds_bind.1 h
        obtain ⟨n, given, some, rfl, g, rfl⟩ := succeeds_count counted
        obtain rfl := eq_preview_of_yields definite given
        obtain ⟨s, added, rfl⟩ := succeeds_tell?.1 h
        obtain ⟨u, hu, rfl⟩ := Scene.tell?_u_eq_ok.1 added
        exact givesAsHinted_of_gained rfl some (Actor.inventory_addItem hu)
    | buyItem type category count cost =>
      obtain ⟨_, enc₁, counted, h⟩ := succeeds_bind.1 h
      obtain ⟨n, given, some, rfl, g, rfl⟩ := succeeds_count counted
      obtain rfl := eq_preview_of_yields definite given
      obtain ⟨price, enc₂, priced, h⟩ := succeeds_bind.1 h
      obtain ⟨-, g', rfl⟩ := succeeds_int priced
      obtain ⟨-, -, s, added, rfl⟩ := succeeds_buy h
      obtain ⟨u, hu, rfl⟩ := Scene.tell?_u_eq_ok.1 added
      have paid := Actor.inventory_addCash enc.scene.u (neg64 price)
      rw [← paid]
      exact givesAsHinted_of_gained rfl some (Actor.inventory_addItem hu)
    | _ => contradiction

variable [Actor.InMemory β]

/-- An effect with a hint changes nothing where it fails. -/
theorem fails_of_hint {e : Effect} {enc enc' : Encounter α β} {failure : Failure}
    {hint : String × Int32} (given : e.likelyReward = some hint)
    (h : e.execute.Fails enc failure enc') : enc'.scene = enc.scene := by
  have single : e.kind.movesMission = false := by
    obtain ⟨kind, target⟩ := e
    cases kind with
    | spawnItem | buyItem => rfl
    | _ => contradiction
  rw [e.execute_steps.clean single enc failure enc' h]

/-- An effect that is attempted gives no more of a type than it hints at. -/
theorem units_attempt_le {e : Effect} (definite : e.kind.isDefinite = true) (enc : Encounter α β)
    (type : String) :
    Item.units type (Actor.inventory (e.attempt enc).2.scene.u) ≤
      Item.units type (Actor.inventory enc.scene.u) + hinted type e.likelyReward.toList := by
  change Item.units type (Actor.inventory (e.execute.perform enc).2.scene.u) ≤ _
  rcases succeeds_or_fails e.execute enc with ⟨_, h⟩ | ⟨failure, h⟩
  · have given := givesAsHinted_of_succeeds definite h
    unfold GivesAsHinted at given
    split at given
    · rename_i type' n hint
      obtain ⟨-, more, others⟩ := given
      rw [hint, Option.toList_some]
      by_cases same : type' = type
      · subst same
        rw [hinted_singleton, if_pos rfl]
        omega
      · rw [others type (Ne.symm same)]
        exact Nat.le_add_right _ _
    · exact Nat.le_add_right_of_le (given type)
  · cases hint : e.likelyReward with
    | none => exact Nat.le_add_right_of_le (noneGained_attempt hint enc type)
    | some =>
      rw [fails_of_hint hint h]
      exact Nat.le_add_right _ _

end Effect

/-! ### Outcomes -/

namespace Outcome

variable {α β : Type} [Actor α] [Actor β] [Actor.InMemory α] [Actor.InMemory β]

/-- Effects that are attempted one after another give the player no more than all their hints
together. -/
theorem units_attempts_le {effects : List Effect}
    (definite : ∀ e ∈ effects, e.kind.isDefinite = true) (enc : Encounter α β) (type : String) :
    Item.units type (Actor.inventory (effects.forM Effect.attempt enc).2.scene.u) ≤
      Item.units type (Actor.inventory enc.scene.u) +
        hinted type (effects.filterMap Effect.likelyReward) := by
  induction effects generalizing enc with
  | nil => exact Nat.le_refl _
  | cons e effects ih =>
    obtain ⟨first, rest⟩ := List.forall_mem_cons.1 definite
    have step := Effect.units_attempt_le first enc type
    have run := ih rest (e.attempt enc).2
    have together : (e :: effects).filterMap Effect.likelyReward =
        e.likelyReward.toList ++ effects.filterMap Effect.likelyReward := by
      cases hint : e.likelyReward <;> simp [hint]
    rw [together, hinted_append]
    change Item.units type
      (Actor.inventory (effects.forM Effect.attempt (e.attempt enc).2).2.scene.u) ≤ _
    omega

omit [Actor.InMemory α] [Actor.InMemory β] in
/-- Whether or not the opinion can be changed, the player is left as the effects leave it. -/
theorem u_apply (o : Outcome) (enc : Encounter α β) :
    (o.apply enc).2.scene.u = (o.carryOut enc).scene.u := by
  unfold apply
  dsimp only
  split
  · rfl
  · exact o.u_settle _ _

/-- Hints at rewards are right where the numbers of items are written down. An effect that succeeds
raises the number of items the player has by what it hints at, and an effect without a hint raises
it for no type. So an outcome gives the player no more of any type than its hints add up to, also
where some of its effects fail and others take items away. -/
theorem hints_add_up (enc : Encounter α β) :
    (∀ (e : Effect) enc', e.kind.isDefinite = true → e.execute.Succeeds enc () enc' →
      e.GivesAsHinted (Actor.inventory enc.scene.u) (Actor.inventory enc'.scene.u)) ∧
    ∀ o : Outcome, (∀ e ∈ o.effects, e.kind.isDefinite = true) → ∀ type,
      Item.units type (Actor.inventory (o.apply enc).2.scene.u) ≤
        Item.units type (Actor.inventory enc.scene.u) + hinted type o.likelyRewards := by
  refine ⟨fun e enc' definite h => Effect.givesAsHinted_of_succeeds definite h, ?_⟩
  intro o definite type
  rw [u_apply]
  exact units_attempts_le definite enc type

/-- Three ropes are handed out and one of them is sold again. Of two purchases of nails the player
can only pay for the second one, so that seven nails are hinted at and two are given. -/
theorem nails_hinted_and_given :
    let number (n : Int64) : IntRef := .single (.literal n)
    let dear : Effect := ⟨.buyItem "nail" "" (number 5) (number 100), .u⟩
    let cheap : Effect := ⟨.buyItem "nail" "" (number 2) (number 10), .u⟩
    let o : Outcome :=
      { effects := [⟨.spawnItem "rope" "tools" (number 3), .u⟩, dear, cheap,
          ⟨.sellItem "rope" (number 1) (number 0), .u⟩, ⟨.spawnItem "nail" "" (number 9), .npc⟩] }
    let u : Player := .ofSheet ((Sheet.new "Bob").withCash 40)
    let enc : Encounter Player Npc :=
      { scene :=
          { u, npc := .ofSheet (.new "Ann"), globals := .empty, current := { id := "TALK" }
            earlier := [], missionsAssigned := [], byRadio := false }
        generator := .ofSeed 0
        handoff := none }
    let owned (type : String) : Nat := Item.units type (Actor.inventory (o.apply enc).2.scene.u)
    (∀ e ∈ o.effects, e.kind.isDefinite = true) ∧
      o.likelyRewards = [("rope", 3), ("nail", 5), ("nail", 2)] ∧
      hinted "nail" o.likelyRewards = 7 ∧ owned "nail" ≤ 0 + 7 ∧ owned "nail" = 2 ∧
      owned "rope" = 2 ∧
      ∃ enc', cheap.execute.Succeeds enc () enc' ∧
        cheap.GivesAsHinted [] (Actor.inventory enc'.scene.u) := by
  intro number dear cheap o u enc owned
  obtain ⟨single, together⟩ := hints_add_up enc
  have definite : ∀ e ∈ o.effects, e.kind.isDefinite = true := by decide
  have bought : cheap.execute.Succeeds enc () (cheap.execute.perform enc).2 := rfl
  refine ⟨definite, by decide, by decide, together o definite "nail", ?_, ?_, _, bought,
    single cheap _ rfl bought⟩
  · decide +kernel
  · decide +kernel

end Outcome

end Parley
