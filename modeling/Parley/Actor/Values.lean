import Parley.Duration

/-!
# What actors have and do

Positions, opinions, and the named choices that effects and conditions speak of. Coordinates and
opinions are 32-bit integers whose arithmetic stops at the ends of the range.
-/

namespace Parley

/-- A place on the map. -/
structure Position where
  x : Int32
  y : Int32
  z : Int32
deriving DecidableEq, Repr, Inhabited

namespace Position

/-- The place that nothing is said about. -/
def origin : Position := ⟨0, 0, 0⟩

/-- How far two coordinates are apart. -/
def gap (a b : Int32) : Int32 := abs32 (sub32 a b)

/-- How far two places are apart, a step in any direction, diagonals included, counting one. -/
def distance (p q : Position) : Int32 :=
  max (max (gap p.x q.x) (gap p.y q.y)) (gap p.z q.z)

/-- The place that lies `d` away. -/
def offset (p d : Position) : Position := ⟨add32 p.x d.x, add32 p.y d.y, add32 p.z d.z⟩

/-- The fields of a position. -/
def fields : Fields Position :=
  Position.mk <$> .required "x" .int32 <*> .required "y" .int32 <*> .orElse "z" .int32 0

/-- Read a position. -/
def reader : Reader Position := fields.read

end Position

/-- What one actor thinks of another. -/
structure Opinion where
  trust : Int32
  fear : Int32
  value : Int32
  anger : Int32
  owed : Int32
deriving DecidableEq, Repr, Inhabited

namespace Opinion

/-- No opinion. -/
def zero : Opinion := ⟨0, 0, 0, 0, 0⟩

/-- An opinion changed by another. -/
def add (o d : Opinion) : Opinion :=
  ⟨add32 o.trust d.trust, add32 o.fear d.fear, add32 o.value d.value, add32 o.anger d.anger,
    add32 o.owed d.owed⟩

/-- The opinion with `f` applied to each of its parts. -/
def map (f : Int32 → Int32) (o : Opinion) : Opinion :=
  ⟨f o.trust, f o.fear, f o.value, f o.anger, f o.owed⟩

/-- The parts of an opinion. -/
def parts (o : Opinion) : List Int32 := [o.trust, o.fear, o.value, o.anger, o.owed]

/-- The fields of an opinion. -/
def fields : Fields Opinion :=
  Opinion.mk <$> .orElse "trust" .int32 0 <*> .orElse "fear" .int32 0
    <*> .orElse "value" .int32 0 <*> .orElse "anger" .int32 0 <*> .orElse "owed" .int32 0

/-- Read an opinion. -/
def reader : Reader Opinion := fields.read

end Opinion

/-- An ability that is measured on every actor. -/
inductive Stat where
  | strength
  | dexterity
  | intelligence
  | perception
deriving DecidableEq, Repr

/-- All stats by name. -/
def Stat.table : List (String × Stat) :=
  [("strength", .strength), ("dexterity", .dexterity), ("intelligence", .intelligence),
    ("perception", .perception)]

/-- A way to talk someone round. -/
inductive Social where
  | lie
  | persuade
  | intimidate
deriving DecidableEq, Repr

/-- The name under which bonuses for it are kept. -/
def Social.name : Social → String
  | .lie => "lie"
  | .persuade => "persuade"
  | .intimidate => "intimidate"

/-- The tone of a message. -/
inductive MessageKind where
  | neutral
  | good
  | bad
  | mixed
  | warning
  | info
deriving DecidableEq, Repr

/-- The name of a tone. -/
def MessageKind.name : MessageKind → String
  | .neutral => "neutral"
  | .good => "good"
  | .bad => "bad"
  | .mixed => "mixed"
  | .warning => "warning"
  | .info => "info"

/-- All tones by name. -/
def MessageKind.table : List (String × MessageKind) :=
  [.neutral, .good, .bad, .mixed, .warning, .info].map fun k => (k.name, k)

/-- A rule of behaviour that has a setting. -/
inductive RuleSetting where
  | engagement
  | aim
  | cbmReserve
  | cbmRecharge
deriving DecidableEq, Repr

/-- The name of a rule with a setting. -/
def RuleSetting.name : RuleSetting → String
  | .engagement => "engagement"
  | .aim => "aim"
  | .cbmReserve => "cbm_reserve"
  | .cbmRecharge => "cbm_recharge"

/-- All rules with a setting, by name. -/
def RuleSetting.table : List (String × RuleSetting) :=
  [.engagement, .aim, .cbmReserve, .cbmRecharge].map fun r => (r.name, r)

/-- Something that the other speaker does at once. -/
inductive Action where
  | hostile
  | insultCombat
  | follow
  | stopFollowing
  | leave
  | flee
  | startTrade
  | leadToSafety
  | playerWeaponAway
  | playerWeaponDrop
  | startMugging
  | dropWeapon
  | endConversation
  | makeNeutral
  | giveEquipment
deriving DecidableEq, Repr

namespace Action

/-- The name of an action. -/
def name : Action → String
  | .hostile => "hostile"
  | .insultCombat => "insult_combat"
  | .follow => "follow"
  | .stopFollowing => "stop_following"
  | .leave => "leave"
  | .flee => "flee"
  | .startTrade => "start_trade"
  | .leadToSafety => "lead_to_safety"
  | .playerWeaponAway => "player_weapon_away"
  | .playerWeaponDrop => "player_weapon_drop"
  | .startMugging => "start_mugging"
  | .dropWeapon => "drop_weapon"
  | .endConversation => "end_conversation"
  | .makeNeutral => "make_neutral"
  | .giveEquipment => "give_equipment"

/-- All actions by name. -/
def table : List (String × Action) :=
  [.hostile, .insultCombat, .follow, .stopFollowing, .leave, .flee, .startTrade, .leadToSafety,
    .playerWeaponAway, .playerWeaponDrop, .startMugging, .dropWeapon, .endConversation,
    .makeNeutral, .giveEquipment].map fun a => (a.name, a)

/-- The action of a name. -/
def ofName? (name : String) : Option Action := table.lookup name

end Action

/-- What a pupil asks to be taught. -/
structure Training where
  skill : Option String
  style : Option String
  spell : Option String
  proficiency : Option String
deriving DecidableEq, Repr, Inhabited

namespace Training

/-- Nothing. -/
def none : Training := ⟨.none, .none, .none, .none⟩

/-- Is nothing asked for? -/
def isEmpty (t : Training) : Bool := t = none

end Training

/-- A change of mood. -/
structure MoraleChange where
  kind : String
  bonus : Int32
  maxBonus : Int32
  duration : Duration
  decayStart : Duration
  capped : Bool
deriving DecidableEq, Repr

end Parley
