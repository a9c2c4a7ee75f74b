import Parley.Condition.Reader
import Parley.Effect.Basic

/-!
# Effects in content

An effect is the name of an action or an object whose `type` says which effect it is. Some effects
can be aimed at either actor, with the player as the default; the others always concern the same
one.
-/

namespace Parley

namespace Effect

open Condition (number count)

/-- A variable under its keys. -/
def var : Fields (Except Failure Variable) := Variable.fields .emptyObject

/-- A string that has to be given. -/
def text (name : String) : Fields String := .required name .string

/-- A truth value with a default. -/
def flag (name : String) (default : Bool) : Fields Bool := .orElse name .bool default

/-- An integer reference that is zero where nothing is said. -/
def orZero (name : String) : Fields (Except Failure IntRef) :=
  .orElse name IntRef.reader (.ok (.literal 0))

/-- A reference that may be left out, once it is resolved. -/
def resolve? {α : Type} : Option (Except Failure α) → Except Failure (Option α)
  | some a => a.map some
  | none => .ok none

/-- An effect on the other speaker. -/
def onNpc (kind : EffectKind) : Except Failure Effect := .ok ⟨kind, .npc⟩

/-- An effect that is counted as the player's. -/
def onU (kind : EffectKind) : Except Failure Effect := .ok ⟨kind, .u⟩

/-- A rule with a setting. -/
def setting (rule : RuleSetting) : Fields (Except Failure Effect) :=
  (fun value => onNpc (.ruleSetting rule value)) <$> text "value"

/-- An effect with an identifier that can be aimed at either actor. -/
def aimed (key : String) (kind : String → EffectKind) : Fields (Except Failure Effect) :=
  (fun target id => .ok ⟨kind id, target⟩) <$> Target.field <*> text key

/-- An effect with an amount that can be aimed at either actor. -/
def aimedAmount (kind : IntRef → EffectKind) : Fields (Except Failure Effect) :=
  (fun target amount => do return ⟨kind (← amount), target⟩) <$> Target.field <*> number "amount"

/-- An effect with an identifier on the other speaker. -/
def named (key : String) (kind : String → EffectKind) : Fields (Except Failure Effect) :=
  (fun id => onNpc (kind id)) <$> text key

/-- The duration of a mood where nothing is said. -/
def hour : Duration := ⟨3600⟩

/-- The time before a mood fades where nothing is said. -/
def halfHour : Duration := ⟨1800⟩

/-- The effect of a type that is written as an object. -/
def typed : String → Option (Fields (Except Failure Effect))
  | "add_var" => some <|
    (fun var value => do onU (.addVar (← var) value)) <$> var <*> text "value"
  | "remove_var" => some <| (fun var => do onU (.removeVar (← var))) <$> var
  | "adjust_var" => some <|
    (fun var adjustment => do onU (.adjustVar (← var) (← adjustment)))
      <$> var <*> number "adjustment"
  | "set_string_var" => some <|
    (fun var value => do onU (.setTextVar (← var) (← value)))
      <$> var <*> .required "value" TextRef.reader
  | "arithmetic" => some <|
    (fun var op formula => do onU (.arithmetic (← var) op (← Formula.ofJson formula)))
      <$> var <*> .required "op" (.choice .emptyObject AssignOp.table) <*> .required "expr" .json
  | "add_trait" => some <| aimed "id" .addTrait
  | "remove_trait" => some <| aimed "id" .removeTrait
  | "mutate" => some <|
    (fun target category useVitamins => .ok ⟨.mutate category useVitamins, target⟩)
      <$> Target.field <*> .optional "category" .string <*> flag "use_vitamins" false
  | "add_effect" => some <|
    (fun target id duration intensity => do
      return ⟨.addEffect id (← resolve? duration) (← intensity), target⟩)
      <$> Target.field <*> text "id" <*> .optional "duration" DurationRef.reader
      <*> orZero "intensity"
  | "remove_effect" => some <| aimed "id" .removeEffect
  | "add_bionic" => some <| aimed "id" .addBionic
  | "lose_bionic" => some <| aimed "id" .removeBionic
  | "spawn_item" => some <|
    (fun target item category count => do return ⟨.spawnItem item category (← count), target⟩)
      <$> Target.field <*> text "item" <*> .orElse "category" .string "" <*> count
  | "buy_item" => some <|
    (fun item category count cost => do onU (.buyItem item category (← count) (← cost)))
      <$> text "item" <*> .orElse "category" .string "" <*> count <*> number "cost"
  | "sell_item" => some <|
    (fun item count cost => do onU (.sellItem item (← count) (← cost)))
      <$> text "item" <*> count <*> number "cost"
  | "consume_item" => some <|
    (fun target item count => do return ⟨.consumeItem item (← count), target⟩)
      <$> Target.field <*> text "item" <*> count
  | "remove_item_with" => some <| aimed "item" .removeItemWith
  | "spend_cash" => some <| (fun amount => do onU (.spendCash (← amount))) <$> number "amount"
  | "change_faction" => some <| named "faction" .changeFaction
  | "add_faction_rep" => some <|
    (fun value => do onNpc (.addFactionRep (← value))) <$> number "value"
  | "add_faction_trust" => some <|
    (fun value => do onNpc (.addFactionTrust (← value))) <$> number "value"
  | "assign_mission" => some <| named "mission" .assignMission
  | "finish_mission" => some <|
    (fun mission success => onNpc (.finishMission mission success))
      <$> text "mission" <*> flag "success" true
  | "offer_mission" => some <| named "mission" .offerMission
  | "add_mission" => some <| named "mission" .addMission
  | "toggle_npc_rule" => some <| named "rule" .toggleRule
  | "set_npc_rule" => some <| named "rule" .setRule
  | "clear_npc_rule" => some <| named "rule" .clearRule
  | "set_npc_engagement_rule" => some <| setting .engagement
  | "set_npc_aim_rule" => some <| setting .aim
  | "set_npc_cbm_reserve_rule" => some <| setting .cbmReserve
  | "set_npc_cbm_recharge_rule" => some <| setting .cbmRecharge
  | "set_class" => some <| named "class" .setClass
  | "add_debt" => some <| (fun amount => do onNpc (.addDebt (← amount))) <$> number "amount"
  | "cast_spell" => some <|
    (fun target spell targeted => .ok ⟨.castSpell spell targeted, target⟩)
      <$> Target.field <*> text "spell" <*> flag "targeted" false
  | "add_morale" => some <|
    (fun target kind bonus maxBonus duration decayStart capped => do
      let maxBonus := maxBonus.getD bonus
      let bonus ← bonus
      let maxBonus ← maxBonus
      let duration ← duration.getD (.ok (.literal hour))
      let decayStart ← decayStart.getD (.ok (.literal halfHour))
      return ⟨.addMorale ⟨kind, bonus, maxBonus, duration, decayStart, capped⟩, target⟩)
      <$> Target.field <*> text "morale_type" <*> number "bonus"
      <*> .optional "max_bonus" IntRef.reader <*> .optional "duration" DurationRef.reader
      <*> .optional "decay_start" DurationRef.reader <*> flag "capped" false
  | "lose_morale" => some <| aimed "morale_type" .loseMorale
  | "message" => some <|
    (fun target message kind => do return ⟨.message (← message) kind, target⟩)
      <$> Target.field <*> .required "message" TextRef.reader
      <*> .orElse "kind" (.choice .emptyObject MessageKind.table) .neutral
  | "sound" => some <|
    (fun target message volume ambient => do return ⟨.sound message (← volume) ambient, target⟩)
      <$> Target.field <*> text "message" <*> number "volume" <*> flag "ambient" false
  | "mod_healthy" => some <|
    (fun target amount cap => do return ⟨.modHealthy (← amount) (← cap), target⟩)
      <$> Target.field <*> number "amount" <*> orZero "cap"
  | "mod_fatigue" => some <| aimedAmount .modFatigue
  | "add_wet" => some <| aimedAmount .addWet
  | "assign_activity" => some <|
    (fun target activity duration => do return ⟨.assignActivity activity (← duration), target⟩)
      <$> Target.field <*> text "activity" <*> .required "duration" DurationRef.reader
  | "teleport" => some <|
    (fun target location relative => .ok ⟨.teleport location relative, target⟩)
      <$> Target.field <*> .required "location" Position.reader <*> flag "relative" false
  | "spawn_monster" => some <|
    (fun target monster count hostile radius => do
      return ⟨.spawnMonster monster (← count) hostile radius, target⟩)
      <$> Target.field <*> text "monster" <*> count <*> flag "hostile" true
      <*> .orElse "radius" .int32 3
  | "learn_recipe" => some <| aimed "recipe" .learnRecipe
  | "npc_first_topic" => some <| named "topic" .npcFirstTopic
  | "open_dialogue" => some <|
    (fun topic => onU (.openDialogue topic)) <$> .optional "topic" .string
  | "take_control" => some (pure (onNpc .takeControl))
  | _ => none

/-- The effect that a name stands for. -/
def ofName (name : String) : Except Failure Effect :=
  if name = "take_control_menu" then onNpc .takeControl
  else match Action.ofName? name with
    | some action => onNpc (.action action)
    | none => .error (.unknownEffect name)

/-- The effect that content writes. -/
def ofJson (j : Json) : Except Failure Effect :=
  match j with
  | .str name => ofName name
  | .obj _ => match (j.field? "type").bind Json.string? with
    | none => .error (.content "effect" "missing \"type\"")
    | some type => match typed type with
      | none => .error (.unknownEffect type)
      | some fields => do
        let e ← (fields.readObject j).mapError (·.inContent ("effect " ++ type))
        e
  | other => .error (.content "effect" ("expected string or object, got " ++ other.render))

end Effect

/-- Take the members of a list in order; a failure is reported with the place of the member. -/
def indexedFrom {α β : Type} (label : String) (f : α → Except Failure β) :
    Nat → List α → Except Failure (List β)
  | _, [] => .ok []
  | i, a :: rest => do
    let b ← (f a).mapError (Failure.inContext (label ++ "[" ++ toString i ++ "]"))
    let bs ← indexedFrom label f (i + 1) rest
    return b :: bs

/-- Take the members of a list in order, from place 0. -/
def indexed {α β : Type} (label : String) (f : α → Except Failure β) (l : List α) :
    Except Failure (List β) := indexedFrom label f 0 l

/-- The effects that content writes, as an array or a single one. -/
def Effect.listOfJson : Json → Except Failure (List Effect)
  | .arr items => indexed "effect" ofJson items
  | single => do return [← ofJson single]

end Parley
