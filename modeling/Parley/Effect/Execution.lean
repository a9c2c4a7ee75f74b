import Parley.Effect.Basic
import Parley.Effect.Encounter

/-!
# Carrying out effects

Every effect first evaluates its parameters, in the order in which they are declared, and then
acts. Evaluated numbers are brought into the 32-bit range where an actor wants one.
-/

namespace Parley

/-- A number of items as it was evaluated; it has to be positive. -/
def positiveCount (item : String) (count : Int64) : Except Failure Int32 :=
  if count ≤ 0 then .error (.invalidCount item count) else .ok (narrow count)

section

variable {δ : Type} [Actor δ]

/-- Has the payer the money? -/
def ensureFunds (payer : δ) (cost : Int64) : Except Failure Unit :=
  if Actor.cash payer < cost then .error (.insufficientFunds cost (Actor.cash payer)) else .ok ()

/-- Does the receiver take the item? -/
def ensureAccepts (receiver : δ) (item : Item) : Except Failure Unit :=
  if Actor.canAccept receiver item then .ok ()
  else .error (.itemRejected (Actor.name receiver) item.type)

end

/-- The integer stored for a variable; zero where nothing is stored. -/
def Scene.integer {α β : Type} [Actor α] [Actor β] (s : Scene α β) (var : Variable) :
    Except Failure Int64 := do
  match ← s.readText var with
  | some text => var.decode .integer text
  | none => .ok 0

namespace Act

variable {α β : Type} [Actor α] [Actor β]

/-- The value of an integer reference. -/
def int (ref : IntRef) : Act α β Int64 := evaluate fun s => ref.evaluate s

/-- The value of an integer reference, brought into the 32-bit range. -/
def int32 (ref : IntRef) : Act α β Int32 := do return narrow (← int ref)

/-- The value of a duration reference. -/
def duration (ref : DurationRef) : Act α β Duration := evaluate fun s => ref.evaluate s

/-- The value of a text reference. -/
def text (ref : TextRef) : Act α β String := look fun s => ref.evaluate s

/-- A number of items, which has to be positive. -/
def count (item : String) (ref : IntRef) : Act α β Int32 := do
  let n ← int ref
  look fun _ => positiveCount item n

/-- The integer stored for a variable. -/
def stored (var : Variable) : Act α β Int64 := look (·.integer var)

/-- Store an integer for a variable. -/
def store (var : Variable) (n : Int64) : Act α β Unit := write var (some (toString n.toInt))

/-- Buy from the other speaker: the player has to have the money and take the item. -/
def buy (item : Item) (cost : Int64) : Act α β Unit := do
  look fun s => ensureFunds s.u cost
  look fun s => ensureAccepts s.u item
  tell .u (Actor.addCash · (neg64 cost))
  tell .npc (Actor.addCash · cost)
  tell? .u (Actor.addItem · item)

/-- Sell to the other speaker: the player has to have the items, the other one the money and the
will to take them. -/
def sell (type : String) (count : Int32) (cost : Int64) : Act α β Unit := do
  look fun s =>
    if Actor.itemCount s.u type < count then .error (.lookup .item type) else .ok ()
  let category ← look fun s => .ok (Item.categoryOf type (Actor.inventory s.u))
  let item := Item.plain type category count
  look fun s => ensureFunds s.npc cost
  look fun s => ensureAccepts s.npc item
  tell? .u (Actor.removeItems · type count)
  tell? .npc (Actor.addItem · item)
  tell .npc (Actor.addCash · (neg64 cost))
  tell .u (Actor.addCash · cost)

end Act

namespace Effect

variable {α β : Type} [Actor α] [Actor β]

open Act

/-- Carry out an effect. -/
def execute (e : Effect) : Act α β Unit :=
  let target := e.target
  match e.kind with
  | .addVar var value => write var (some value)
  | .removeVar var => write var none
  | .adjustVar var adjustment => do
    let delta ← int adjustment
    let current ← stored var
    store var (add64 current delta)
  | .setTextVar var value => do
    let value ← text value
    write var (some value)
  | .arithmetic var op formula => do
    let given ← evaluate fun s => formula.evaluate s
    let current ← stored var
    let result ← look fun _ => op.apply current given
    store var result
  | .addTrait id => tell target (Actor.addTrait · id)
  | .removeTrait id => tell target (Actor.removeTrait · id)
  | .mutate category useVitamins => tell? target (Actor.mutate · category useVitamins)
  | .addEffect id length intensity => do
    let intensity ← int32 intensity
    match length with
    | some length => do
      let length ← duration length
      tell target (Actor.addEffect · id length false intensity)
    | none => tell target (Actor.addEffect · id ⟨0⟩ true intensity)
  | .removeEffect id => tell target (Actor.removeEffect · id)
  | .addBionic id => tell target (Actor.addBionic · id)
  | .removeBionic id => tell target (Actor.removeBionic · id)
  | .spawnItem item category number => do
    let number ← count item number
    tell? target (Actor.addItem · (.plain item category number))
  | .buyItem item category number cost => do
    let number ← count item number
    let cost ← int cost
    buy (.plain item category number) cost
  | .sellItem item number cost => do
    let number ← count item number
    let cost ← int cost
    sell item number cost
  | .consumeItem item number => do
    let number ← count item number
    tell? target (Actor.removeItems · item number)
  | .removeItemWith item => tell target fun a => (Actor.removeAllItems a item).2
  | .spendCash amount => do
    let amount ← int amount
    look fun s => ensureFunds s.u amount
    tell .u (Actor.addCash · (neg64 amount))
  | .changeFaction faction => tell target (Actor.setFaction · faction)
  | .addFactionRep value => do
    let value ← int32 value
    tell target (Actor.changeFactionRep · value)
  | .addFactionTrust value => do
    let value ← int32 value
    tell target (Actor.changeFactionTrust · value)
  | .assignMission mission => do
    tell? .npc (Actor.assignMission · mission)
    tell? .u (Actor.assignMission · mission)
  | .finishMission mission success => do
    tell? .npc (Actor.finishMission · mission success)
    tell? .u (Actor.finishMission · mission success)
  | .offerMission mission => tell? target (Actor.offerMission · mission)
  | .addMission mission => do
    tell? .npc (Actor.addMission · mission)
    tell? .u (Actor.assignMission · mission)
  | .toggleRule rule => tell target (Actor.toggleRule · rule)
  | .setRule rule => tell target (Actor.setRule · rule)
  | .clearRule rule => tell target (Actor.clearRule · rule)
  | .ruleSetting setting value => tell target (Actor.setRuleSetting · setting value)
  | .setClass classId => tell target (Actor.setClass · classId)
  | .addDebt amount => do
    let amount ← int32 amount
    tell target (Actor.addDebt · amount)
  | .castSpell spell targeted => do
    let place ← look fun s =>
      .ok (if targeted then some (s.ask target.other Actor.position) else none)
    tell? target (Actor.castSpell · spell place)
  | .addMorale params => do
    let bonus ← int32 params.bonus
    let maxBonus ← int32 params.maxBonus
    let length ← duration params.duration
    let decayStart ← duration params.decayStart
    tell target
      (Actor.addMorale · ⟨params.kind, bonus, maxBonus, length, decayStart, params.capped⟩)
  | .loseMorale kind => tell target (Actor.removeMorale · kind)
  | .message message kind => do
    let message ← text message
    tell target (Actor.addMessage · message kind)
  | .sound message volume ambient => do
    let volume ← int32 volume
    tell target (Actor.makeSound · message volume ambient)
  | .modHealthy amount cap => do
    let amount ← int32 amount
    let cap ← int32 cap
    tell target (Actor.modHealthy · amount cap)
  | .modFatigue amount => do
    let amount ← int32 amount
    tell target (Actor.modFatigue · amount)
  | .addWet amount => do
    let amount ← int32 amount
    tell target (Actor.addWet · amount)
  | .assignActivity activity length => do
    let length ← duration length
    tell target (Actor.assignActivity · activity length)
  | .teleport location relative => do
    let place ← look fun s =>
      .ok (if relative then (s.ask target Actor.position).offset location else location)
    tell? target (Actor.teleport · place)
  | .spawnMonster monster number hostile radius => do
    let number ← int32 number
    tell? target fun a => (Actor.spawnMonster a monster number hostile radius).map (·.2)
  | .learnRecipe recipe => tell? target (Actor.learnRecipe · recipe)
  | .npcFirstTopic topic => tell target (Actor.setFirstTopic · topic)
  | .openDialogue topic => handOver (.openDialogue topic)
  | .takeControl => do
    tell? target Actor.takeControl
    handOver .takeControl
  | .action action => tell target (Actor.performAction · action)

/-- Carry out an effect, and do without it from where it fails. -/
def attempt (e : Effect) : StateM (Encounter α β) Unit := fun enc =>
  ((), (e.execute.run.run enc).2)

end Effect

end Parley
