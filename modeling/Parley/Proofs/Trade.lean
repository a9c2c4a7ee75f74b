import Parley.Proofs.Lots
import Parley.Proofs.Solvency

/-!
# Trade

A purchase or a sale takes place as a whole or not at all. Numbers and prices are whatever their
references come to: a number below one is no trade, one beyond the range of a count is cut to the
greatest count, and a price may be negative. The guards look at a count that saturates and that
debts lower, while the goods are taken from a nested inventory; that what was asked for is there to
be taken is `Item.countType_le_units`.
-/

namespace Parley

/-! ### Goods and money -/

/-- There is one more stack, with `n` items of a type and nothing inside. -/
def Item.Gained (type category : String) (n : Int) (items items' : List Item) : Prop :=
  ∃ count : Int32, count.toInt = n ∧ items' = items ++ [.plain type category count]

/-- Gaining items changes nothing about other types. -/
theorem Item.Gained.units_of_ne {type type' category : String} {n : Int} {items items' : List Item}
    (gained : Gained type category n items items') (other : type' ≠ type) :
    units type' items' = units type' items := by
  obtain ⟨count, -, rfl⟩ := gained
  rw [units_append, units_plain, if_neg other.symm, Nat.add_zero]

/-- A price is paid: unless it is negative, or the two together have more than can be counted, the
payer has exactly that much less, and the two together have what they had. -/
def Paid (price payer payee payer' payee' : Int64) : Prop :=
  0 ≤ price → payer.toInt + payee.toInt ≤ Int64.maxValue.toInt →
    payer'.toInt = payer.toInt - price.toInt ∧
      payer'.toInt + payee'.toInt = payer.toInt + payee.toInt

/-- A price that is covered is paid, as far as the receiver can hold it. -/
theorem paid_of_le {price payer payee : Int64} (funds : price ≤ payer) :
    Paid price payer payee (add64 payer (neg64 price)) (add64 payee price) := by
  intro nonneg countable
  rw [Int64.le_iff_toInt_le] at funds nonneg
  rw [Int64.toInt_zero] at nonneg
  have least := payee.le_toInt
  have most := payer.toInt_le
  simp only [add64, neg64, toInt_clamp64, Int64.toInt_minValue, Int64.toInt_maxValue] at *
  omega

namespace Actor

variable {α : Type} [Actor α] [memory : Actor.InMemory α] {a a' : α}

theorem inventory_addCash (a : α) (delta : Int64) :
    inventory (addCash a delta) = inventory a := by
  cases memory <;> rfl

theorem inventory_addItem {item : Item} (h : addItem a item = .ok a') :
    inventory a' = inventory a ++ [item] := by
  cases memory <;>
  · obtain ⟨sheet, hs, rfl⟩ := map_eq_ok.1 h
    obtain ⟨-, rfl⟩ := Sheet.addItem_eq_ok.1 hs
    rfl

theorem inventory_removeItems {type : String} {count : Int32}
    (h : removeItems a type count = .ok a') :
    inventory a' = Item.remove type count.toInt.toNat (inventory a) := by
  cases memory <;>
  · obtain ⟨sheet, hs, rfl⟩ := map_eq_ok.1 h
    obtain ⟨-, -, rfl⟩ := Sheet.removeItems_eq_ok.1 hs
    rfl

end Actor

variable {α β : Type} [Actor α] [Actor β]

/-- After a purchase the player has the goods in a stack of their own. They come from nowhere: the
other speaker keeps what is there. -/
structure Scene.Bought (item category : String) (n : Int) (price : Int64) (s s' : Scene α β) :
    Prop where
  received : Item.Gained item category n (Actor.inventory s.u) (Actor.inventory s'.u)
  kept : Actor.inventory s'.npc = Actor.inventory s.npc
  paid : Paid price (Actor.cash s.u) (Actor.cash s.npc) (Actor.cash s'.u) (Actor.cash s'.npc)

/-- After a sale the goods are missing from the inventory of the player, at whatever depth they
were, and the other speaker has them in a stack of their own. -/
structure Scene.Sold (item : String) (n : Int) (price : Int64) (s s' : Scene α β) : Prop where
  parted : (Item.units item (Actor.inventory s'.u) : Int) =
    Item.units item (Actor.inventory s.u) - n
  received : ∃ category,
    Item.Gained item category n (Actor.inventory s.npc) (Actor.inventory s'.npc)
  others : ∀ type, type ≠ item →
    Item.units type (Actor.inventory s'.u) = Item.units type (Actor.inventory s.u) ∧
      Item.units type (Actor.inventory s'.npc) = Item.units type (Actor.inventory s.npc)
  paid : Paid price (Actor.cash s.npc) (Actor.cash s.u) (Actor.cash s'.npc) (Actor.cash s'.u)

namespace Act

variable {e e₁ e₂ e' : Encounter α β} {c price : Int64} {u : Unit}

/-! ### Numbers and prices -/

/-- A number of items is accepted from one on, and narrowed. -/
theorem positiveCount_eq_ok {item : String} {n : Int32} :
    positiveCount item c = .ok n ↔ 1 ≤ c ∧ n = narrow c := by
  have one : 1 ≤ c ↔ ¬c ≤ 0 := by
    rw [Int64.le_iff_toInt_le, Int64.le_iff_toInt_le, Int64.toInt_zero, Int64.toInt_one]
    omega
  rw [positiveCount, one]
  split <;> simp [*, eq_comm]

/-- A trade goes on if its number is positive, with the number cut to a count. -/
theorem succeeds_priced_iff {item : String} {number cost : IntRef}
    {f : Int32 → Int64 → Act α β Unit} (counted : (int number).Succeeds e c e₁)
    (priced : (int cost).Succeeds e₁ price e₂) :
    (do let n ← count item number; let p ← int cost; f n p : Act α β Unit).Succeeds e u e' ↔
      1 ≤ c ∧ (f (narrow c) price).Succeeds e₂ u e' := by
  constructor
  · intro h
    obtain ⟨n, e₃, hn, h⟩ := succeeds_bind.1 h
    obtain ⟨c', e₄, hc, hn⟩ := succeeds_bind.1 hn
    obtain ⟨rfl, rfl⟩ := succeeds_unique counted hc
    obtain ⟨positive, rfl⟩ := succeeds_look.1 hn
    obtain ⟨some, rfl⟩ := positiveCount_eq_ok.1 positive
    obtain ⟨p, e₅, hp, h⟩ := succeeds_bind.1 h
    obtain ⟨rfl, rfl⟩ := succeeds_unique priced hp
    exact ⟨some, h⟩
  · rintro ⟨some, h⟩
    have cut : (count item number : Act α β Int32).Succeeds e (narrow c) e₁ :=
      succeeds_bind.2 ⟨c, e₁, counted, succeeds_look.2 ⟨positiveCount_eq_ok.2 ⟨some, rfl⟩, rfl⟩⟩
    exact succeeds_bind.2 ⟨_, _, cut, succeeds_bind.2 ⟨_, _, priced, h⟩⟩

/-- A positive number is narrowed to the greatest that can be represented. -/
theorem toInt_narrow_of_pos (some : 1 ≤ c) :
    (narrow c).toInt = min c.toInt Int32.maxValue.toInt := by
  rw [Int64.le_iff_toInt_le, Int64.toInt_one] at some
  rw [narrow, toInt_clamp32, Int32.toInt_minValue, Int32.toInt_maxValue]
  omega

/-! ### Steps of a trade -/

variable [Actor.InMemory α]

/-- A purchase goes through if there are goods and the player can pay. -/
theorem buy_succeeds_iff {item : Item} :
    (∃ e', (buy item price : Act α β Unit).Succeeds e () e') ↔
      0 < item.count ∧ price ≤ Actor.cash e.scene.u := by
  constructor
  · rintro ⟨e', h⟩
    obtain ⟨funds, accepted, -⟩ := succeeds_buy h
    exact ⟨ensureAccepts_ok_iff.1 accepted, ensureFunds_eq_ok.1 funds⟩
  · rintro ⟨some, funds⟩
    exact buy_goes_through item some funds

variable [Actor.InMemory β]

/-- A sale goes through if the player has the goods and the other speaker can pay. -/
theorem sell_succeeds_iff {type : String} {count : Int32} :
    (∃ e', (sell type count price : Act α β Unit).Succeeds e () e') ↔
      0 < count ∧ count ≤ Actor.itemCount e.scene.u type ∧ price ≤ Actor.cash e.scene.npc := by
  constructor
  · rintro ⟨e', h⟩
    obtain ⟨owned, funds, accepted, -⟩ := succeeds_sell h
    exact ⟨ensureAccepts_ok_iff.1 accepted, Int32.not_lt.1 owned, ensureFunds_eq_ok.1 funds⟩
  · rintro ⟨some, owned, funds⟩
    exact sell_goes_through some (Int32.not_lt.2 owned) funds

/-- A purchase that goes through moves the goods and the money. -/
theorem bought_of_succeeds {type category : String} {count : Int32}
    (h : (buy (.plain type category count) price : Act α β Unit).Succeeds e u e') :
    e.scene.Bought type category count.toInt price e'.scene := by
  obtain ⟨payer, payee⟩ := cash_buy h
  obtain ⟨funds, -, s, added, rfl⟩ := succeeds_buy h
  obtain ⟨buyer, hu, rfl⟩ := Scene.tell?_u_eq_ok.1 added
  constructor
  · refine ⟨count, rfl, ?_⟩
    rw [← Actor.inventory_addCash e.scene.u (neg64 price)]
    exact Actor.inventory_addItem hu
  · exact Actor.inventory_addCash e.scene.npc price
  · rw [payer, payee]
    exact paid_of_le (ensureFunds_eq_ok.1 funds)

theorem sold_of_succeeds {type : String} {count : Int32} (some : 0 < count)
    (h : (sell type count price : Act α β Unit).Succeeds e u e') :
    e.scene.Sold type count.toInt price e'.scene := by
  obtain ⟨payee, payer⟩ := cash_sell h
  obtain ⟨owned, funds, -, s₁, s₂, removed, added, rfl⟩ := succeeds_sell h
  obtain ⟨seller, hu, rfl⟩ := Scene.tell?_u_eq_ok.1 removed
  obtain ⟨npc, hn, rfl⟩ := Scene.tell?_npc_eq_ok.1 added
  have left : Actor.inventory (Actor.addCash seller price) =
      Item.remove type count.toInt.toNat (Actor.inventory e.scene.u) :=
    (Actor.inventory_addCash seller price).trans (Actor.inventory_removeItems hu)
  have gained : Item.Gained type (Item.categoryOf type (Actor.inventory e.scene.u)) count.toInt
      (Actor.inventory e.scene.npc) (Actor.inventory (Actor.addCash npc (neg64 price))) :=
    ⟨count, rfl, (Actor.inventory_addCash npc _).trans (Actor.inventory_addItem hn)⟩
  constructor
  · change (Item.units type (Actor.inventory (Actor.addCash seller price)) : Int) = _
    have there := Item.countType_le_units type (Actor.inventory e.scene.u)
    rw [Actor.itemCount, Int32.not_lt, Int32.le_iff_toInt_le] at owned
    rw [Int32.lt_iff_toInt_lt, Int32.toInt_zero] at some
    rw [left, Item.units_remove_self]
    omega
  · exact ⟨_, gained⟩
  · intro type' other
    refine ⟨?_, gained.units_of_ne other⟩
    change Item.units type' (Actor.inventory (Actor.addCash seller price)) = _
    rw [left, Item.units_remove_of_ne other]
  · rw [payer, payee]
    exact paid_of_le (ensureFunds_eq_ok.1 funds)

end Act

namespace Effect

open Act

/-- The effect takes place as a whole, with an outcome, or not at all. -/
structure AllOrNothing (e : Effect) (enc : Encounter α β) (possible : Prop)
    (outcome : Scene α β → Prop) : Prop where
  succeeds_iff : (∃ enc', e.execute.Succeeds enc () enc') ↔ possible
  succeeded : ∀ enc', e.execute.Succeeds enc () enc' → outcome enc'.scene
  failed : ∀ failure enc', e.execute.Fails enc failure enc' → enc'.scene = enc.scene

variable {enc enc₁ enc₂ : Encounter α β} {number cost : IntRef} {c price : Int64}
  [Actor.InMemory α] [Actor.InMemory β]

/-- A trade is all or nothing if what it does with a positive number and a price is. -/
theorem allOrNothing_of_priced {e : Effect} {f : Int32 → Int64 → Act α β Unit} {item : String}
    {possible : Prop} {outcome : Scene α β → Prop} (single : e.kind.movesMission = false)
    (steps : e.execute = do let n ← count item number; let p ← int cost; f n p)
    (counted : (int number).Succeeds enc c enc₁) (priced : (int cost).Succeeds enc₁ price enc₂)
    (succeeds : 1 ≤ c → ((∃ enc', (f (narrow c) price).Succeeds enc₂ () enc') ↔ possible))
    (brings : 1 ≤ c → ∀ enc', (f (narrow c) price).Succeeds enc₂ () enc' → outcome enc'.scene) :
    e.AllOrNothing enc (1 ≤ c ∧ possible) outcome := by
  constructor
  · rw [steps]
    constructor
    · rintro ⟨enc', h⟩
      obtain ⟨some, h⟩ := (succeeds_priced_iff counted priced).1 h
      exact ⟨some, (succeeds some).1 ⟨enc', h⟩⟩
    · rintro ⟨some, h⟩
      obtain ⟨enc', h⟩ := (succeeds some).2 h
      exact ⟨enc', (succeeds_priced_iff counted priced).2 ⟨some, h⟩⟩
  · intro enc' h
    rw [steps] at h
    obtain ⟨some, h⟩ := (succeeds_priced_iff counted priced).1 h
    exact brings some enc' h
  · intro failure enc' h
    have same : enc' = { enc with generator := enc'.generator } :=
      e.execute_steps.clean single enc failure enc' h
    rw [same]

/-- A purchase and a sale are all or nothing, whatever their number and their price come to. A
purchase takes place exactly if something is bought and the player has the money, a sale if
something is sold, the player has it, and the other speaker has the money. -/
theorem trade_all_or_nothing (item category : String) (target : Target)
    (counted : (int number).Succeeds enc c enc₁) (priced : (int cost).Succeeds enc₁ price enc₂) :
    AllOrNothing ⟨.buyItem item category number cost, target⟩ enc
      (1 ≤ c ∧ price ≤ Actor.cash enc.scene.u)
      (enc.scene.Bought item category (min c.toInt Int32.maxValue.toInt) price) ∧
    AllOrNothing ⟨.sellItem item number cost, target⟩ enc
      (1 ≤ c ∧ min c.toInt Int32.maxValue.toInt ≤ (Actor.itemCount enc.scene.u item).toInt ∧
        price ≤ Actor.cash enc.scene.npc)
      (enc.scene.Sold item (min c.toInt Int32.maxValue.toInt) price) := by
  have scene : enc₂.scene = enc.scene := (scene_of_priced priced).trans (scene_of_priced counted)
  have cut (some : 1 ≤ c) : 0 < narrow c :=
    narrow_pos (Int64.lt_of_lt_of_le (by decide) some)
  constructor
  · refine allOrNothing_of_priced rfl rfl counted priced (fun some => ?_) fun some enc' bought => ?_
    · rw [buy_succeeds_iff, scene]
      exact and_iff_right (cut some)
    · rw [← toInt_narrow_of_pos some, ← scene]
      exact bought_of_succeeds bought
  · refine allOrNothing_of_priced rfl rfl counted priced (fun some => ?_) fun some enc' sold => ?_
    · rw [sell_succeeds_iff, scene, ← toInt_narrow_of_pos some, Int32.le_iff_toInt_le]
      exact and_iff_right (cut some)
    · rw [← toInt_narrow_of_pos some, ← scene]
      exact sold_of_succeeds (cut some) sold

/-- Five ropes are sold out of seven that lie at three depths. A player without money cannot buy
at the same price. -/
theorem ropes_sold_at_three_depths :
    let box : Item := ⟨"box", "", 1, [.plain "rope" "tools" 2, .plain "nail" "" 5]⟩
    let coil : Item := ⟨"rope", "tools", 1, [box, .plain "rope" "tools" 4]⟩
    let u : Player := .ofSheet ((Sheet.new "Bob").withItem coil)
    let npc : Npc := .ofSheet ((Sheet.new "Ann").withCash 30)
    let enc : Encounter Player Npc :=
      { scene :=
          { u, npc, globals := .empty, current := { id := "TALK" }, earlier := []
            missionsAssigned := [], byRadio := false }
        generator := .ofSeed 0
        handoff := none }
    let number : IntRef := .single (.literal 5)
    let cost : IntRef := .single (.literal 30)
    let sale : Effect := ⟨.sellItem "rope" number cost, .u⟩
    let purchase : Effect := ⟨.buyItem "rope" "tools" number cost, .u⟩
    (int number).Succeeds enc 5 enc ∧ (int cost).Succeeds enc 30 enc ∧
      Item.units "rope" (Actor.inventory enc.scene.u) = 7 ∧
      (∃ enc', sale.execute.Succeeds enc () enc' ∧ enc.scene.Sold "rope" 5 30 enc'.scene) ∧
      ¬∃ enc', purchase.execute.Succeeds enc () enc' := by
  intro box coil u npc enc number cost sale purchase
  have counted : (int number).Succeeds enc 5 enc := rfl
  have priced : (int cost).Succeeds enc 30 enc := rfl
  obtain ⟨bought, sold⟩ := trade_all_or_nothing "rope" "tools" .u counted priced
  obtain ⟨enc', done⟩ := sold.succeeds_iff.2 (by decide +kernel)
  refine ⟨counted, priced, by decide +kernel, ⟨enc', done, sold.succeeded enc' done⟩, ?_⟩
  exact bought.succeeds_iff.not.2 (by decide +kernel)

end Effect

end Parley
