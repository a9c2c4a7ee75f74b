import Parley.Actor.Npc
import Parley.Actor.Player
import Parley.Json.Writer

/-!
# Actors as JSON

Actors are written as they are read, with every field present.
-/

namespace Parley

/-- Write a position. -/
def Position.writer : Writer Position := fun p =>
  Json.object [("x", Writer.int32 p.x), ("y", Writer.int32 p.y), ("z", Writer.int32 p.z)]

/-- Write an opinion. -/
def Opinion.writer : Writer Opinion := fun o =>
  Json.object [("trust", Writer.int32 o.trust), ("fear", Writer.int32 o.fear),
    ("value", Writer.int32 o.value), ("anger", Writer.int32 o.anger),
    ("owed", Writer.int32 o.owed)]

/-- Write what is asked to be taught. -/
def Training.writer : Writer Training := fun t =>
  Json.object [("skill", Writer.nullable .string t.skill),
    ("style", Writer.nullable .string t.style), ("spell", Writer.nullable .string t.spell),
    ("proficiency", Writer.nullable .string t.proficiency)]

namespace Item

mutual

/-- Write a stack. -/
def writer : Item → Json
  | ⟨type, category, count, contents⟩ =>
    Json.object [("type_id", .str type), ("category", .str category),
      ("count", Writer.int32 count), ("contents", .arr (writeAll contents))]

/-- Write the stacks of an inventory. -/
def writeAll : List Item → List Json
  | [] => []
  | item :: rest => item.writer :: writeAll rest

end

end Item

/-- Write the measured abilities. -/
def Stats.writer : Writer Stats := fun s =>
  Json.object [("strength", Writer.int32 s.strength), ("dexterity", Writer.int32 s.dexterity),
    ("intelligence", Writer.int32 s.intelligence), ("perception", Writer.int32 s.perception)]

/-- The fields of a sheet as they are written. -/
def Sheet.written (s : Sheet) : List (String × Json) :=
  [("name", .str s.name), ("traits", Writer.names s.traits),
    ("effects", Writer.dict .int32 s.effects), ("bionics", Writer.names s.bionics),
    ("skills", Writer.dict .int32 s.skills),
    ("skill_practice", Writer.dict .int32 s.skillPractice), ("stats", s.stats.writer),
    ("social_bonuses", Writer.dict .int32 s.socialBonuses),
    ("inventory", .arr (Item.writeAll s.inventory)), ("cash", Writer.int64 s.cash),
    ("position", s.position.writer), ("faction", .str s.faction),
    ("vars", Writer.dict .string s.vars), ("known_spells", Writer.names s.knownSpells),
    ("learnable_recipes", Writer.names s.learnableRecipes),
    ("known_recipes", Writer.names s.knownRecipes),
    ("mutation_pool", Writer.dict (.list .string) s.mutationPool),
    ("morale", Writer.dict .int32 s.morale), ("health", Writer.int32 s.health),
    ("fatigue", Writer.int32 s.fatigue), ("wetness", Writer.int32 s.wetness),
    ("activity", Writer.nullable .string s.activity),
    ("messages", Writer.list .string s.messages), ("sounds", Writer.list .string s.sounds),
    ("spells_cast", Writer.list .string s.spellsCast),
    ("spawnable_monsters", Writer.names s.spawnableMonsters),
    ("spawned_monsters", Writer.list (.pair .string .int32) s.spawnedMonsters)]

/-- The fields of a player as they are written. -/
def Player.written (p : Player) : List (String × Json) :=
  p.sheet.written ++
    [("active_missions", Writer.names p.activeMissions),
      ("completed_missions", Writer.list (.pair .string .bool) p.completedMissions)]

/-- Write a mission. -/
def Mission.writer : Writer Mission := fun m =>
  Json.object [("value", Writer.int32 m.value), ("status", .str m.status.name)]

/-- The fields of a speaker as they are written. -/
def Npc.written (n : Npc) : List (String × Json) :=
  n.sheet.written ++
    [("opinion", n.opinion.writer), ("anger_threshold", Writer.int32 n.angerThreshold),
      ("hostile", .bool n.hostile), ("following", .bool n.following),
      ("rules", Writer.names n.rules), ("missions", Writer.dict Mission.writer n.missions),
      ("mission_types", Writer.dict .int32 n.missionTypes),
      ("selected_mission", Writer.nullable .string n.selectedMission),
      ("debt", Writer.int32 n.debt), ("faction_rep", Writer.int32 n.factionRep),
      ("faction_trust", Writer.int32 n.factionTrust), ("class", .str n.classId),
      ("first_topic", Writer.nullable .string n.firstTopic),
      ("controllable", .bool n.controllable), ("controlled", .bool n.controlled)]

end Parley
