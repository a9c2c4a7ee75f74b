import Mathlib.Data.List.Infix
import Parley.Proofs.Failing

/-!
# Solvency

Whoever pays for something has to have the money. A price may come from a variable or a range,
though, and a negative one makes the other side pay, whose money nobody looks at. `Overdraws` says
when a purchase or a sale does so beyond what the other side has. Nothing else brings an actor
below zero, so a sequence of effects keeps both actors solvent exactly if no step of it overdraws.
-/

namespace Parley

/-! ### Money -/

/-- A saturating sum is negative exactly where the sum is. -/
theorem add64_nonneg_iff {a b : Int64} : 0 ≤ add64 a b ↔ 0 ≤ a.toInt + b.toInt := by
  rw [Int64.le_iff_toInt_le, add64, toInt_clamp64, Int64.toInt_zero, Int64.toInt_minValue,
    Int64.toInt_maxValue]
  omega

/-- What is paid out of enough money leaves no debt. -/
theorem add64_neg64_nonneg {a b : Int64} (some : 0 ≤ a) (h : b ≤ a) :
    0 ≤ add64 a (neg64 b) := by
  rw [Int64.le_iff_toInt_le] at h some
  rw [Int64.toInt_zero] at some
  rw [add64_nonneg_iff, neg64, toInt_clamp64, Int64.toInt_minValue, Int64.toInt_maxValue]
  omega

theorem ensureFunds_eq_ok {α : Type} [Actor α] {payer : α} {price : Int64} :
    ensureFunds payer price = .ok () ↔ price ≤ Actor.cash payer := by
  rw [ensureFunds]
  split
  · rename_i few
    simp [Int64.not_le.2 few]
  · rename_i enough
    simp [Int64.not_lt.1 enough]

namespace Actor

variable {α : Type} [Actor α] [memory : Actor.InMemory α] {a a' : α}

theorem cash_eq (a : α) : cash a = (sheet a).cash := by
  cases memory <;> rfl

theorem cash_addCash (a : α) (delta : Int64) : cash (addCash a delta) = add64 (cash a) delta := by
  cases memory <;> rfl

theorem cash_addItem {item : Item} (h : addItem a item = .ok a') : cash a' = cash a := by
  cases memory <;>
  · obtain ⟨sheet, hs, rfl⟩ := map_eq_ok.1 h
    obtain ⟨-, rfl⟩ := Sheet.addItem_eq_ok.1 hs
    rfl

theorem cash_removeItems {type : String} {count : Int32}
    (h : removeItems a type count = .ok a') : cash a' = cash a := by
  cases memory <;>
  · obtain ⟨sheet, hs, rfl⟩ := map_eq_ok.1 h
    obtain ⟨-, -, rfl⟩ := Sheet.removeItems_eq_ok.1 hs
    rfl

/-- Items that are there can be taken. -/
theorem removeItems_of_le {type : String} {count : Int32} (some : 0 < count)
    (owned : ¬itemCount a type < count) : ∃ a', removeItems a type count = .ok a' := by
  cases memory <;>
  exact ⟨_, map_eq_ok.2 ⟨_, Sheet.removeItems_eq_ok.2 ⟨some, owned, rfl⟩, rfl⟩⟩

end Actor

/-! ### Trade -/

namespace Act

variable {α β : Type} {e e' : Encounter α β} {price : Int64} {u : Unit}

theorem goes_through_bind {γ δ : Type} {m : Act α β γ} {f : γ → Act α β δ} {e₁ : Encounter α β}
    {b : δ} (a : γ) (h : m.Succeeds e a e₁) (rest : ∃ e', (f a).Succeeds e₁ b e') :
    ∃ e', (m >>= f).Succeeds e b e' := by
  obtain ⟨e', rest⟩ := rest
  exact ⟨e', succeeds_bind.2 ⟨a, e₁, h, rest⟩⟩

variable [Actor α] [Actor β] [Actor.InMemory α]

/-- A purchase goes through if the player has the money, be the price negative. -/
theorem buy_goes_through (item : Item) (some : 0 < item.count)
    (funds : price ≤ Actor.cash e.scene.u) :
    ∃ e', (buy item price : Act α β Unit).Succeeds e () e' := by
  have accepted : ensureAccepts e.scene.u item = .ok () := ensureAccepts_ok_iff.2 some
  obtain ⟨u, added⟩ := Actor.addItem_of_pos (Actor.addCash e.scene.u (neg64 price)) some
  refine goes_through_bind () (succeeds_look.2 ⟨ensureFunds_eq_ok.2 funds, rfl⟩) ?_
  refine goes_through_bind () (succeeds_look.2 ⟨accepted, rfl⟩) ?_
  refine goes_through_bind () (succeeds_tell.2 rfl) ?_
  refine goes_through_bind () (succeeds_tell.2 rfl) ?_
  exact ⟨_, succeeds_tell?.2 ⟨_, Scene.tell?_u_eq_ok.2 ⟨u, added, rfl⟩, rfl⟩⟩

variable [Actor.InMemory β]

/-- A purchase moves its price from the player to the other speaker. -/
theorem cash_buy {item : Item} (h : (buy item price : Act α β Unit).Succeeds e u e') :
    Actor.cash e'.scene.u = add64 (Actor.cash e.scene.u) (neg64 price) ∧
      Actor.cash e'.scene.npc = add64 (Actor.cash e.scene.npc) price := by
  obtain ⟨-, -, s, added, rfl⟩ := succeeds_buy h
  obtain ⟨u, hu, rfl⟩ := Scene.tell?_u_eq_ok.1 added
  constructor
  · rw [Actor.cash_addItem hu]
    exact Actor.cash_addCash e.scene.u (neg64 price)
  · exact Actor.cash_addCash e.scene.npc price

/-- A sale moves its price from the other speaker to the player. -/
theorem cash_sell {type : String} {count : Int32}
    (h : (sell type count price : Act α β Unit).Succeeds e u e') :
    Actor.cash e'.scene.u = add64 (Actor.cash e.scene.u) price ∧
      Actor.cash e'.scene.npc = add64 (Actor.cash e.scene.npc) (neg64 price) := by
  obtain ⟨-, -, -, s₁, s₂, removed, added, rfl⟩ := succeeds_sell h
  obtain ⟨u, hu, rfl⟩ := Scene.tell?_u_eq_ok.1 removed
  obtain ⟨npc, hn, rfl⟩ := Scene.tell?_npc_eq_ok.1 added
  constructor
  · rw [← Actor.cash_removeItems hu]
    exact Actor.cash_addCash u price
  · rw [← Actor.cash_addItem hn]
    exact Actor.cash_addCash npc (neg64 price)

/-- A sale goes through if the player has the items and the other speaker the money. -/
theorem sell_goes_through {type : String} {count : Int32} (some : 0 < count)
    (owned : ¬Actor.itemCount e.scene.u type < count)
    (funds : price ≤ Actor.cash e.scene.npc) :
    ∃ e', (sell type count price : Act α β Unit).Succeeds e () e' := by
  let item := Item.plain type (Item.categoryOf type (Actor.inventory e.scene.u)) count
  have given : 0 < item.count := some
  have accepted : ensureAccepts e.scene.npc item = .ok () := ensureAccepts_ok_iff.2 given
  obtain ⟨u, removed⟩ := Actor.removeItems_of_le some owned
  obtain ⟨npc, added⟩ := Actor.addItem_of_pos e.scene.npc given
  have taken : e.scene.tell? .u (Actor.removeItems · type count) = .ok { e.scene with u } :=
    Scene.tell?_u_eq_ok.2 ⟨u, removed, rfl⟩
  have received : ({ e.scene with u } : Scene α β).tell? .npc (Actor.addItem · item) =
      .ok { e.scene with u, npc } := Scene.tell?_npc_eq_ok.2 ⟨npc, added, rfl⟩
  refine goes_through_bind () (succeeds_look.2 ⟨if_neg owned, rfl⟩) ?_
  refine goes_through_bind item.category (succeeds_look.2 ⟨rfl, rfl⟩) ?_
  refine goes_through_bind () (succeeds_look.2 ⟨ensureFunds_eq_ok.2 funds, rfl⟩) ?_
  refine goes_through_bind () (succeeds_look.2 ⟨accepted, rfl⟩) ?_
  refine goes_through_bind () (succeeds_tell?.2 ⟨_, taken, rfl⟩) ?_
  refine goes_through_bind () (succeeds_tell?.2 ⟨_, received, rfl⟩) ?_
  refine goes_through_bind () (succeeds_tell.2 rfl) ?_
  exact ⟨_, succeeds_tell.2 rfl⟩

end Act

/-! ### Solvency -/

/-- Neither actor is in debt. -/
def Scene.Solvent {α β : Type} [Actor α] [Actor β] (s : Scene α β) : Prop :=
  0 ≤ Actor.cash s.u ∧ 0 ≤ Actor.cash s.npc

instance {α β : Type} [Actor α] [Actor β] (s : Scene α β) : Decidable s.Solvent :=
  inferInstanceAs (Decidable (_ ∧ _))

/-- In an encounter, an effect takes more from an actor than that actor has: a purchase whose price
is a debt for the other speaker, or a sale whose price is one for the player. -/
inductive Effect.Overdraws {α β : Type} [Actor α] [Actor β] (enc : Encounter α β) :
    Effect → Prop where
  | buy {item category number cost target n price enc₁ enc₂}
      (counted : (Act.count item number).Succeeds enc n enc₁)
      (priced : (Act.int cost).Succeeds enc₁ price enc₂)
      (debt : (Actor.cash enc.scene.npc).toInt + price.toInt < 0) :
      Overdraws enc ⟨.buyItem item category number cost, target⟩
  | sell {item number cost target n price enc₁ enc₂}
      (counted : (Act.count item number).Succeeds enc n enc₁)
      (priced : (Act.int cost).Succeeds enc₁ price enc₂)
      (owned : ¬Actor.itemCount enc.scene.u item < n)
      (debt : (Actor.cash enc.scene.u).toInt + price.toInt < 0) :
      Overdraws enc ⟨.sellItem item number cost, target⟩

theorem narrow_pos {n : Int64} (h : 0 < n) : 0 < narrow n := by
  rw [Int64.lt_iff_toInt_lt, Int64.toInt_zero] at h
  rw [Int32.lt_iff_toInt_lt, narrow, toInt_clamp32, Int32.toInt_zero, Int32.toInt_minValue,
    Int32.toInt_maxValue]
  omega

/-- No mission is moved where money is. -/
theorem EffectKind.single_of_movesMoney {kind : EffectKind} (moves : kind.movesMoney = true) :
    kind.movesMission = false := by
  cases kind with
  | buyItem | sellItem | spendCash => rfl
  | _ => contradiction

/-- An effect that moves no money leaves everybody what they have. -/
theorem EffectKind.Alters.cash {kind : EffectKind} {t : Target} {s s' : Sheet}
    (change : kind.Alters t s s') (keeps : kind.movesMoney = false) : s'.cash = s.cash := by
  cases change with
  | pay moves =>
    rw [keeps] at moves
    contradiction
  | kept same => exact same.cash
  | write | addEffect | removeEffect | addItem | removeItems | modFatigue | addWet => rfl

namespace Effect

variable {α β : Type} [Actor α] [Actor β] {enc enc₁ enc' : Encounter α β}

open Act

theorem attempt_of_succeeds {e : Effect} (h : e.execute.Succeeds enc () enc') :
    (e.attempt enc).2 = enc' := congrArg Prod.snd h

/-- Working out a number of items changes nothing that is looked at. -/
theorem counted_items {item : String} {number : IntRef} {n : Int32}
    (counted : (count item number).Succeeds enc n enc₁) : enc₁.scene = enc.scene ∧ 0 < n := by
  obtain ⟨m, -, some, rfl, g, rfl⟩ := succeeds_count counted
  exact ⟨rfl, narrow_pos some⟩

theorem scene_of_priced {cost : IntRef} {price : Int64}
    (priced : (int cost).Succeeds enc price enc₁) : enc₁.scene = enc.scene := by
  obtain ⟨-, g, rfl⟩ := succeeds_int priced
  rfl

/-! ### Effects that move money -/

variable [Actor.InMemory α]

/-- Whoever spends money has it. -/
theorem solvent_spend {amount : IntRef} {target : Target} (start : enc.scene.Solvent)
    (h : (execute ⟨.spendCash amount, target⟩).Succeeds enc () enc') : enc'.scene.Solvent := by
  obtain ⟨n, enc₁, given, h⟩ := succeeds_bind.1 h
  have scene := scene_of_priced given
  obtain ⟨_, enc₂, funded, h⟩ := succeeds_bind.1 h
  obtain ⟨funds, rfl⟩ := succeeds_look.1 funded
  obtain rfl := succeeds_tell.1 h
  rw [ensureFunds_eq_ok] at funds
  rw [← scene] at start
  refine ⟨?_, start.2⟩
  change 0 ≤ Actor.cash (Actor.addCash enc₁.scene.u (neg64 n))
  rw [Actor.cash_addCash]
  exact add64_neg64_nonneg start.1 funds

variable [Actor.InMemory β]

/-- An effect that overdraws leaves someone with a debt. -/
theorem not_solvent_of_overdraws {e : Effect} (start : enc.scene.Solvent)
    (overdraws : e.Overdraws enc) : ¬(e.attempt enc).2.scene.Solvent := by
  obtain ⟨player, other⟩ := start
  rw [Int64.le_iff_toInt_le, Int64.toInt_zero] at player other
  cases overdraws with
  | @buy item category number cost target n price enc₁ enc₂ counted priced debt =>
    obtain ⟨same, some⟩ := counted_items counted
    have scene : enc₂.scene = enc.scene := (scene_of_priced priced).trans same
    have funds : price ≤ Actor.cash enc₂.scene.u := by
      rw [scene, Int64.le_iff_toInt_le]
      omega
    obtain ⟨enc₃, bought⟩ := buy_goes_through (.plain item category n) some funds
    have done : (execute ⟨.buyItem item category number cost, target⟩).Succeeds enc () enc₃ :=
      succeeds_bind.2 ⟨n, enc₁, counted, succeeds_bind.2 ⟨price, enc₂, priced, bought⟩⟩
    intro after
    rw [attempt_of_succeeds done] at after
    have left := after.2
    rw [(cash_buy bought).2, add64_nonneg_iff, scene] at left
    omega
  | @sell item number cost target n price enc₁ enc₂ counted priced owned debt =>
    obtain ⟨same, some⟩ := counted_items counted
    have scene : enc₂.scene = enc.scene := (scene_of_priced priced).trans same
    have funds : price ≤ Actor.cash enc₂.scene.npc := by
      rw [scene, Int64.le_iff_toInt_le]
      omega
    rw [← scene] at owned
    obtain ⟨enc₃, sold⟩ := sell_goes_through some owned funds
    have done : (execute ⟨.sellItem item number cost, target⟩).Succeeds enc () enc₃ :=
      succeeds_bind.2 ⟨n, enc₁, counted, succeeds_bind.2 ⟨price, enc₂, priced, sold⟩⟩
    intro after
    rw [attempt_of_succeeds done] at after
    have left := after.1
    rw [(cash_sell sold).1, add64_nonneg_iff, scene] at left
    omega

/-- A purchase that does not overdraw leaves nobody with a debt. -/
theorem solvent_buy {item category : String} {number cost : IntRef} {target : Target}
    (start : enc.scene.Solvent)
    (within : ¬Overdraws enc ⟨.buyItem item category number cost, target⟩)
    (h : (execute ⟨.buyItem item category number cost, target⟩).Succeeds enc () enc') :
    enc'.scene.Solvent := by
  obtain ⟨n, enc₁, counted, h⟩ := succeeds_bind.1 h
  obtain ⟨price, enc₂, priced, bought⟩ := succeeds_bind.1 h
  have scene : enc₂.scene = enc.scene :=
    (scene_of_priced priced).trans (counted_items counted).1
  obtain ⟨funds, -⟩ := succeeds_buy bought
  obtain ⟨player, other⟩ := cash_buy bought
  rw [scene] at funds player other
  constructor
  · rw [player]
    exact add64_neg64_nonneg start.1 (ensureFunds_eq_ok.1 funds)
  · rw [other, add64_nonneg_iff]
    exact Int.not_lt.1 fun debt => within (.buy counted priced debt)

/-- A sale that does not overdraw leaves nobody with a debt. -/
theorem solvent_sell {item : String} {number cost : IntRef} {target : Target}
    (start : enc.scene.Solvent) (within : ¬Overdraws enc ⟨.sellItem item number cost, target⟩)
    (h : (execute ⟨.sellItem item number cost, target⟩).Succeeds enc () enc') :
    enc'.scene.Solvent := by
  obtain ⟨n, enc₁, counted, h⟩ := succeeds_bind.1 h
  obtain ⟨price, enc₂, priced, sold⟩ := succeeds_bind.1 h
  have scene : enc₂.scene = enc.scene :=
    (scene_of_priced priced).trans (counted_items counted).1
  obtain ⟨owned, funds, -⟩ := succeeds_sell sold
  obtain ⟨player, other⟩ := cash_sell sold
  rw [scene] at owned funds player other
  constructor
  · rw [player, add64_nonneg_iff]
    exact Int.not_lt.1 fun debt => within (.sell counted priced owned debt)
  · rw [other]
    exact add64_neg64_nonneg start.2 (ensureFunds_eq_ok.1 funds)

/-- Where no money moves, nobody gets into debt. -/
theorem solvent_of_not_movesMoney {e : Effect} (start : enc.scene.Solvent)
    (keeps : e.kind.movesMoney = false) : (e.attempt enc).2.scene.Solvent := by
  have same (t : Target) [Scene.Side α β t] :
      ((e.attempt enc).2.scene.sheet t).cash = (enc.scene.sheet t).cash :=
    e.attempt_preserves (P := fun s => s.cash = (enc.scene.sheet t).cash) enc
      (fun change h => (change.cash keeps).trans h) rfl
  constructor
  · rw [Actor.cash_eq]
    change 0 ≤ ((e.attempt enc).2.scene.sheet .u).cash
    rw [same .u]
    exact Actor.cash_eq enc.scene.u ▸ start.1
  · rw [Actor.cash_eq]
    change 0 ≤ ((e.attempt enc).2.scene.sheet .npc).cash
    rw [same .npc]
    exact Actor.cash_eq enc.scene.npc ▸ start.2

/-- After an effect on two solvent actors both are still solvent, unless it overdraws. -/
theorem solvent_attempt_iff (start : enc.scene.Solvent) (e : Effect) :
    (e.attempt enc).2.scene.Solvent ↔ ¬e.Overdraws enc := by
  constructor
  · intro after overdraws
    exact not_solvent_of_overdraws start overdraws after
  · intro within
    cases moves : e.kind.movesMoney with
    | false => exact solvent_of_not_movesMoney start moves
    | true =>
      rcases succeeds_or_fails e.execute enc with ⟨_, ok⟩ | ⟨failure, fails⟩
      · rw [attempt_of_succeeds ok]
        obtain ⟨kind, target⟩ := e
        cases kind with
        | buyItem => exact solvent_buy start within ok
        | sellItem => exact solvent_sell start within ok
        | spendCash => exact solvent_spend start ok
        | _ => contradiction
      · have single := EffectKind.single_of_movesMoney moves
        have alike := e.execute_steps.clean single enc failure _ fails
        change (e.execute.perform enc).2.scene.Solvent
        rw [alike]
        exact start

/-! ### Sequences of effects -/

omit [Actor.InMemory α] [Actor.InMemory β] in
theorem attempts_concat (effects : List Effect) (e : Effect) (enc : Encounter α β) :
    ((effects ++ [e]).forM attempt enc).2 = (e.attempt (effects.forM attempt enc).2).2 := by
  induction effects generalizing enc with
  | nil => rfl
  | cons first effects ih => exact ih (first.attempt enc).2

/-- Between two actors that are kept in memory and not in debt, nobody gets into debt at any step of
a sequence of effects exactly if no step of it overdraws. -/
theorem always_solvent_iff (start : enc.scene.Solvent) (effects : List Effect) :
    (∀ done, done <+: effects → (done.forM attempt enc).2.scene.Solvent) ↔
      ∀ done e, done ++ [e] <+: effects → ¬e.Overdraws (done.forM attempt enc).2 := by
  constructor
  · intro solvent done e next
    have before := solvent done ((List.prefix_append done [e]).trans next)
    rw [← solvent_attempt_iff before, ← attempts_concat]
    exact solvent (done ++ [e]) next
  · intro within done
    induction done using List.reverseRecOn with
    | nil =>
      intro _
      exact start
    | append_singleton done e ih =>
      intro next
      have before := ih ((List.prefix_append done [e]).trans next)
      rw [attempts_concat, solvent_attempt_iff before]
      exact within done e next

/-- A sale at a loss that the player can afford leaves nobody in debt. -/
theorem affordable_loss_overdraws_nobody :
    let u : Player := .ofSheet (((Sheet.new "Bob").withItem (.plain "rope" "tools" 1)).withCash 40)
    let npc : Npc := .ofSheet (.new "Ann")
    let enc : Encounter Player Npc :=
      { scene :=
          { u, npc, globals := .empty, current := { id := "TALK" }, earlier := []
            missionsAssigned := [], byRadio := false }
        generator := .ofSeed 0
        handoff := none }
    let sale : Effect := ⟨.sellItem "rope" (.single (.literal 1)) (.single (.literal (-30))), .u⟩
    let toll : Effect := ⟨.spendCash (.single (.literal 5)), .u⟩
    let after := ([sale, toll].forM attempt enc).2
    enc.scene.Solvent ∧ Actor.cash after.scene.u = 5 ∧ Actor.cash after.scene.npc = 30 ∧
      ∀ done e, done ++ [e] <+: [sale, toll] → ¬e.Overdraws (done.forM attempt enc).2 := by
  intro u npc enc sale toll after
  have start : enc.scene.Solvent := by decide
  have solvent : ∀ done ∈ [[], [sale], [sale, toll]], (done.forM attempt enc).2.scene.Solvent := by
    decide +kernel
  refine ⟨start, by decide +kernel, by decide +kernel, ?_⟩
  refine (always_solvent_iff start [sale, toll]).1 fun done prior => solvent done ?_
  exact (List.mem_inits done [sale, toll]).2 prior

/-- A negative price makes the seller pay, who does not have to have the money. -/
theorem sale_at_loss_overdraws :
    let u : Player := .ofSheet ((Sheet.new "Bob").withItem (.plain "rope" "tools" 1))
    let npc : Npc := .ofSheet (.new "Ann")
    let enc : Encounter Player Npc :=
      { scene :=
          { u, npc, globals := .empty, current := { id := "TALK" }, earlier := []
            missionsAssigned := [], byRadio := false }
        generator := .ofSeed 0
        handoff := none }
    let sale : Effect := ⟨.sellItem "rope" (.single (.literal 1)) (.single (.literal (-50))), .u⟩
    let after := sale.execute.perform enc
    enc.scene.Solvent ∧ after.1 = .ok () ∧ Actor.cash after.2.scene.u = -50 ∧
      ¬after.2.scene.Solvent := by
  intro u npc enc sale after
  exact ⟨by decide, rfl, by decide +kernel, by decide +kernel⟩

end Effect

end Parley
