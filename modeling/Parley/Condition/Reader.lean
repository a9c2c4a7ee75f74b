import Parley.Condition.Basic
import Parley.Json.Printer

/-!
# Conditions in content

A condition is a truth value, the name of a simple condition, or an object whose `type` says which
condition it is.
-/

namespace Parley

/-- Which actor is meant. -/
def Target.field : Fields Target := .orElse "target" (.choice .emptyObject Target.table) .u

namespace Condition

/-- The conditions that have a name only. -/
def simple : List (String × Condition) :=
  [("has_assigned_mission", .hasAssignedMission),
    ("has_many_assigned_missions", .hasManyAssignedMissions), ("has_reason", .hasReason),
    ("is_by_radio", .isByRadio), ("u_is_player", .uIsPlayer), ("npc_is_player", .npcIsPlayer),
    ("npc_following", .npcFollowing), ("npc_hostile", .npcHostile),
    ("has_topic_item", .hasTopicItem)]

/-- A comparison under its key. -/
def comparison : Fields Comparison := .required "op" (.choice .emptyObject Comparison.table)

/-- A number of items, one where nothing is said. -/
def count : Fields (Except Failure IntRef) := .orElse "count" IntRef.reader (.ok (.literal 1))

/-- A number that has to be given. -/
def number (name : String) : Fields (Except Failure IntRef) := .required name IntRef.reader

/-- The condition of a type that is written as an object; `inner` reads the conditions in it. -/
def typed (inner : Json → Except Failure Condition) :
    String → Option (Fields (Except Failure Condition))
  | "and" => some <|
    (fun all => do return .and (← all.mapM inner)) <$> .required "conditions" (.list .json)
  | "or" => some <|
    (fun any => do return .or (← any.mapM inner)) <$> .required "conditions" (.list .json)
  | "not" => some <| (fun c => do return .not (← inner c)) <$> .required "condition" .json
  | "has_trait" => some <|
    (fun target id => .ok (.hasTrait target id)) <$> Target.field <*> .required "id" .string
  | "has_effect" => some <|
    (fun target id => .ok (.hasEffect target id)) <$> Target.field <*> .required "id" .string
  | "has_bionic" => some <|
    (fun target id => .ok (.hasBionic target id)) <$> Target.field <*> .required "id" .string
  | "has_item" => some <|
    (fun target item count => do return .hasItem target item (← count))
      <$> Target.field <*> .required "item" .string <*> count
  | "has_item_category" => some <|
    (fun target category count => do return .hasItemCategory target category (← count))
      <$> Target.field <*> .required "category" .string <*> count
  | "skill_at_least" => some <|
    (fun target skill level => do return .skillAtLeast target skill (← level))
      <$> Target.field <*> .required "skill" .string <*> number "level"
  | "stat_at_least" => some <|
    (fun target stat value => do return .statAtLeast target stat (← value))
      <$> Target.field <*> .required "stat" (.choice .emptyObject Stat.table) <*> number "value"
  | "faction_is" => some <|
    (fun target faction => .ok (.factionIs target faction))
      <$> Target.field <*> .required "faction" .string
  | "faction_trust_at_least" => some <|
    (fun value => do return .factionTrustAtLeast (← value)) <$> number "value"
  | "opinion" => some <|
    (fun part op value => do return .opinion part op (← value))
      <$> .required "field" (.choice .emptyObject OpinionPart.table) <*> comparison
        <*> number "value"
  | "has_cash" => some <|
    (fun target amount => do return .hasCash target (← amount))
      <$> Target.field <*> number "amount"
  | "within_distance" => some <|
    (fun distance => do return .withinDistance (← distance)) <$> number "distance"
  | "has_var" => some <|
    (fun var value => do return .hasVar (← var) value)
      <$> Variable.fields .emptyObject <*> .required "value" .string
  | "has_mission" => some <|
    (fun target mission => .ok (.hasMission target mission))
      <$> Target.field <*> .required "mission" .string
  | "npc_rule" => some <| (fun rule => .ok (.npcRule rule)) <$> .required "rule" .string
  | "morale_at_least" => some <|
    (fun target value => do return .moraleAtLeast target (← value))
      <$> Target.field <*> number "value"
  | "topic_item_is" => some <| (fun item => .ok (.topicItemIs item)) <$> .required "item" .string
  | "compare_int" => some <|
    (fun lhs op rhs => do return .compareInt (← lhs) op (← rhs))
      <$> number "lhs" <*> comparison <*> number "rhs"
  | "compare_string" => some <|
    (fun lhs op rhs => do return .compareText (← lhs) op (← rhs))
      <$> .required "lhs" TextRef.reader <*> comparison <*> .required "rhs" TextRef.reader
  | "compare_duration" => some <|
    (fun lhs op rhs => do return .compareDuration (← lhs) op (← rhs))
      <$> .required "lhs" DurationRef.reader <*> comparison
      <*> .required "rhs" DurationRef.reader
  | "math" => some <|
    (fun lhs op rhs => do return .math (← Formula.ofJson lhs) op (← Formula.ofJson rhs))
      <$> .required "lhs" .json <*> comparison <*> .required "rhs" .json
  | _ => none

/-- The condition that content writes, nested at most `depth` deep. -/
def readNested : Nat → Json → Except Failure Condition
  | 0, j => .error (.content "condition" ("expected bool, string or object, got " ++ j.render))
  | depth + 1, j =>
    match j with
    | .bool value => .ok (.const value)
    | .str name => match simple.lookup name with
      | some c => .ok c
      | none => .error (.unknownCondition name)
    | .obj _ => match (j.field? "type").bind Json.string? with
      | none => .error (.content "condition" "missing \"type\"")
      | some type => match typed (readNested depth) type with
        | none => .error (.unknownCondition type)
        | some fields => do
          let c ← (fields.readObject j).mapError (·.inContent ("condition " ++ type))
          c
    | other =>
      .error (.content "condition" ("expected bool, string or object, got " ++ other.render))

/-- The condition that content writes. -/
def ofJson (j : Json) : Except Failure Condition := readNested j.depth j

/-- The condition that content writes, if it writes one. -/
def ofJson? : Option Json → Except Failure (Option Condition)
  | some j => (ofJson j).map some
  | none => .ok none

end Condition

end Parley
