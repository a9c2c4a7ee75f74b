import Parley.Formula

/-!
# Effects

What a response can bring about: the closed vocabulary of effects with their parameters, and what
can be said about an effect without carrying it out.
-/

namespace Parley

/-- How an arithmetic effect combines the old value with the new one. -/
inductive AssignOp where
  | set
  | add
  | sub
  | mul
  | div
  | rem
deriving DecidableEq, Repr

namespace AssignOp

/-- The symbol of an assignment. -/
def symbol : AssignOp → String
  | .set => "="
  | .add => "+="
  | .sub => "-="
  | .mul => "*="
  | .div => "/="
  | .rem => "%="

/-- All assignments by symbol. -/
def table : List (String × AssignOp) :=
  [.set, .add, .sub, .mul, .div, .rem].map fun op => (op.symbol, op)

/-- The value after an assignment. -/
def apply : AssignOp → (current given : Int64) → Except Failure Int64
  | .set, _, b => .ok b
  | .add, a, b => .ok (add64 a b)
  | .sub, a, b => .ok (sub64 a b)
  | .mul, a, b => .ok (mul64 a b)
  | .div, a, b => if b = 0 then .error .divisionByZero else .ok (a / b)
  | .rem, a, b => if b = 0 then .error .divisionByZero else .ok (a % b)

end AssignOp

/-- The parameters of a change of mood. -/
structure MoraleParams where
  kind : String
  bonus : IntRef
  maxBonus : IntRef
  duration : DurationRef
  decayStart : DurationRef
  capped : Bool

/-- What an effect does. -/
inductive EffectKind where
  | addVar (var : Variable) (value : String)
  | removeVar (var : Variable)
  | adjustVar (var : Variable) (adjustment : IntRef)
  | setTextVar (var : Variable) (value : TextRef)
  | arithmetic (var : Variable) (op : AssignOp) (formula : Formula)
  | addTrait (id : String)
  | removeTrait (id : String)
  | mutate (category : Option String) (useVitamins : Bool)
  | addEffect (id : String) (duration : Option DurationRef) (intensity : IntRef)
  | removeEffect (id : String)
  | addBionic (id : String)
  | removeBionic (id : String)
  | spawnItem (item category : String) (count : IntRef)
  | buyItem (item category : String) (count cost : IntRef)
  | sellItem (item : String) (count cost : IntRef)
  | consumeItem (item : String) (count : IntRef)
  | removeItemWith (item : String)
  | spendCash (amount : IntRef)
  | changeFaction (faction : String)
  | addFactionRep (value : IntRef)
  | addFactionTrust (value : IntRef)
  | assignMission (mission : String)
  | finishMission (mission : String) (success : Bool)
  | offerMission (mission : String)
  | addMission (mission : String)
  | toggleRule (rule : String)
  | setRule (rule : String)
  | clearRule (rule : String)
  | ruleSetting (setting : RuleSetting) (value : String)
  | setClass (classId : String)
  | addDebt (amount : IntRef)
  | castSpell (spell : String) (targeted : Bool)
  | addMorale (params : MoraleParams)
  | loseMorale (kind : String)
  | message (text : TextRef) (kind : MessageKind)
  | sound (text : String) (volume : IntRef) (ambient : Bool)
  | modHealthy (amount cap : IntRef)
  | modFatigue (amount : IntRef)
  | addWet (amount : IntRef)
  | assignActivity (activity : String) (duration : DurationRef)
  | teleport (location : Position) (relative : Bool)
  | spawnMonster (monster : String) (count : IntRef) (hostile : Bool) (radius : Int32)
  | learnRecipe (recipe : String)
  | npcFirstTopic (topic : String)
  | openDialogue (topic : Option String)
  | takeControl
  | action (action : Action)

/-- An effect: what it does, and to whom. -/
structure Effect where
  kind : EffectKind
  target : Target

namespace Effect

/-- Does an effect concern the other speaker? -/
def targetsOther (e : Effect) : Bool := e.target = .npc

/-- The name of an effect. -/
def name (e : Effect) : String :=
  match e.kind with
  | .addVar .. => "add_var"
  | .removeVar .. => "remove_var"
  | .adjustVar .. => "adjust_var"
  | .setTextVar .. => "set_string_var"
  | .arithmetic .. => "arithmetic"
  | .addTrait _ => "add_trait"
  | .removeTrait _ => "remove_trait"
  | .mutate .. => "mutate"
  | .addEffect .. => "add_effect"
  | .removeEffect _ => "remove_effect"
  | .addBionic _ => "add_bionic"
  | .removeBionic _ => "lose_bionic"
  | .spawnItem .. => "spawn_item"
  | .buyItem .. => "buy_item"
  | .sellItem .. => "sell_item"
  | .consumeItem .. => "consume_item"
  | .removeItemWith _ => "remove_item_with"
  | .spendCash _ => "spend_cash"
  | .changeFaction _ => "change_faction"
  | .addFactionRep _ => "add_faction_rep"
  | .addFactionTrust _ => "add_faction_trust"
  | .assignMission _ => "assign_mission"
  | .finishMission .. => "finish_mission"
  | .offerMission _ => "offer_mission"
  | .addMission _ => "add_mission"
  | .toggleRule _ => "toggle_npc_rule"
  | .setRule _ => "set_npc_rule"
  | .clearRule _ => "clear_npc_rule"
  | .ruleSetting .. => "set_npc_rule_setting"
  | .setClass _ => "set_class"
  | .addDebt _ => "add_debt"
  | .castSpell .. => "cast_spell"
  | .addMorale _ => "add_morale"
  | .loseMorale _ => "lose_morale"
  | .message .. => "message"
  | .sound .. => "sound"
  | .modHealthy .. => "mod_healthy"
  | .modFatigue _ => "mod_fatigue"
  | .addWet _ => "add_wet"
  | .assignActivity .. => "assign_activity"
  | .teleport .. => "teleport"
  | .spawnMonster .. => "spawn_monster"
  | .learnRecipe _ => "learn_recipe"
  | .npcFirstTopic _ => "npc_first_topic"
  | .openDialogue _ => "open_dialogue"
  | .takeControl => "take_control"
  | .action action => action.name

/-- The item that the player is likely to get from an effect, and how many of it. -/
def likelyReward (e : Effect) : Option (String × Int32) :=
  match e.kind with
  | .spawnItem item _ count =>
    if e.target = .u then some (item, narrow (IntRef.preview count)) else none
  | .buyItem item _ count _ => some (item, narrow (IntRef.preview count))
  | _ => none

end Effect

end Parley
