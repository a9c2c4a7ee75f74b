import Parley.Formula

/-!
# Conditions

What content can ask about a scene. Conditions over several others stop as soon as their value is
known.
-/

namespace Parley

/-- A comparison. -/
inductive Comparison where
  | eq
  | ne
  | lt
  | le
  | gt
  | ge
deriving DecidableEq, Repr

namespace Comparison

/-- The symbol of a comparison. -/
def symbol : Comparison → String
  | .eq => "=="
  | .ne => "!="
  | .lt => "<"
  | .le => "<="
  | .gt => ">"
  | .ge => ">="

/-- All comparisons by symbol. -/
def table : List (String × Comparison) :=
  [.eq, .ne, .lt, .le, .gt, .ge].map fun c => (c.symbol, c)

/-- Does a comparison hold for two things in this order? -/
def holds : Comparison → Ordering → Bool
  | .eq, o => o.isEq
  | .ne, o => o.isNe
  | .lt, o => o.isLT
  | .le, o => o.isLE
  | .gt, o => o.isGT
  | .ge, o => o.isGE

end Comparison

/-- A part of an opinion. -/
inductive OpinionPart where
  | trust
  | fear
  | value
  | anger
  | owed
deriving DecidableEq, Repr

namespace OpinionPart

/-- The name of a part of an opinion. -/
def name : OpinionPart → String
  | .trust => "trust"
  | .fear => "fear"
  | .value => "value"
  | .anger => "anger"
  | .owed => "owed"

/-- All parts of an opinion by name. -/
def table : List (String × OpinionPart) :=
  [.trust, .fear, .value, .anger, .owed].map fun p => (p.name, p)

/-- One part of an opinion. -/
def of (o : Opinion) : OpinionPart → Int32
  | .trust => o.trust
  | .fear => o.fear
  | .value => o.value
  | .anger => o.anger
  | .owed => o.owed

end OpinionPart

/-- A question about a scene. -/
inductive Condition where
  | const (value : Bool)
  | and (all : List Condition)
  | or (any : List Condition)
  | not (inner : Condition)
  | hasTrait (target : Target) (id : String)
  | hasEffect (target : Target) (id : String)
  | hasBionic (target : Target) (id : String)
  | hasItem (target : Target) (item : String) (count : IntRef)
  | hasItemCategory (target : Target) (category : String) (count : IntRef)
  | skillAtLeast (target : Target) (skill : String) (level : IntRef)
  | statAtLeast (target : Target) (stat : Stat) (value : IntRef)
  | factionIs (target : Target) (faction : String)
  | factionTrustAtLeast (value : IntRef)
  | opinion (part : OpinionPart) (op : Comparison) (value : IntRef)
  | hasCash (target : Target) (amount : IntRef)
  | withinDistance (distance : IntRef)
  | hasVar (var : Variable) (value : String)
  | hasMission (target : Target) (mission : String)
  | npcRule (rule : String)
  | moraleAtLeast (target : Target) (value : IntRef)
  | topicItemIs (item : String)
  | compareInt (lhs : IntRef) (op : Comparison) (rhs : IntRef)
  | compareText (lhs : TextRef) (op : Comparison) (rhs : TextRef)
  | compareDuration (lhs : DurationRef) (op : Comparison) (rhs : DurationRef)
  | math (lhs : Formula) (op : Comparison) (rhs : Formula)
  | hasAssignedMission
  | hasManyAssignedMissions
  | hasReason
  | isByRadio
  | uIsPlayer
  | npcIsPlayer
  | npcFollowing
  | npcHostile
  | hasTopicItem

namespace Condition

section

variable {α β : Type} [Actor α] [Actor β] (s : Scene α β) (item : Option String)

/-- Is a quantity of an actor at least as great as a reference? -/
def atLeast (owned : Int32) (wanted : IntRef) : Draw Bool := do
  return (← wanted.evaluate s).toInt ≤ owned.toInt

/-- The item that is talked about: the candidate if there is one, else that of the topic. -/
def topicItem : Option String := item.or s.current.item

mutual

/-- Whether a condition holds in a scene, for a candidate item where there is one. -/
def evaluate : Condition → Draw Bool
  | .const value => return value
  | .and all => evaluateAll all
  | .or any => evaluateAny any
  | .not inner => do return !(← inner.evaluate)
  | .hasTrait target id => return s.ask target (Actor.hasTrait · id)
  | .hasEffect target id => return s.ask target (Actor.hasEffect · id)
  | .hasBionic target id => return s.ask target (Actor.hasBionic · id)
  | .hasItem target item count => atLeast s (s.ask target (Actor.itemCount · item)) count
  | .hasItemCategory target category count =>
    atLeast s (s.ask target (Actor.categoryCount · category)) count
  | .skillAtLeast target skill level => atLeast s (s.ask target (Actor.skillLevel · skill)) level
  | .statAtLeast target stat value => atLeast s (s.ask target (Actor.stat · stat)) value
  | .factionIs target faction => return s.ask target Actor.faction = faction
  | .factionTrustAtLeast value => atLeast s (Actor.factionTrust s.npc) value
  | .opinion part op value => do
    return op.holds (compare (part.of (Actor.opinion s.npc)).toInt (← value.evaluate s).toInt)
  | .hasCash target amount => do
    return (← amount.evaluate s) ≤ s.ask target Actor.cash
  | .withinDistance distance => do
    let apart := (Actor.position s.u).distance (Actor.position s.npc)
    return apart.toInt ≤ (← distance.evaluate s).toInt
  | .hasVar var value => do return (← Draw.ofExcept (s.read var)) = some value
  | .hasMission target mission => return s.ask target (Actor.hasMission · mission)
  | .npcRule rule => return Actor.hasRule s.npc rule
  | .moraleAtLeast target value => atLeast s (s.ask target Actor.moraleLevel) value
  | .topicItemIs wanted => return topicItem s item = some wanted
  | .compareInt lhs op rhs => do
    let a ← lhs.evaluate s
    let b ← rhs.evaluate s
    return op.holds (compare a.toInt b.toInt)
  | .compareText lhs op rhs => do
    let a ← Draw.ofExcept (lhs.evaluate s)
    let b ← Draw.ofExcept (rhs.evaluate s)
    return op.holds (compare a b)
  | .compareDuration lhs op rhs => do
    let a ← lhs.evaluate s
    let b ← rhs.evaluate s
    return op.holds (compare a.turns.toInt b.turns.toInt)
  | .math lhs op rhs => do
    let a ← lhs.evaluate s
    let b ← rhs.evaluate s
    return op.holds (compare a.toInt b.toInt)
  | .hasAssignedMission => return s.missionsAssigned.length = 1
  | .hasManyAssignedMissions => return 2 ≤ s.missionsAssigned.length
  | .hasReason => return s.current.reason ≠ ""
  | .isByRadio => return s.byRadio
  | .uIsPlayer => return Actor.isPlayer s.u
  | .npcIsPlayer => return Actor.isPlayer s.npc
  | .npcFollowing => return Actor.isFollowing s.npc
  | .npcHostile => return Actor.turnedHostile s.npc
  | .hasTopicItem => return (topicItem s item).isSome

/-- Whether all conditions hold; those behind one that does not are not looked at. -/
def evaluateAll : List Condition → Draw Bool
  | [] => return true
  | c :: rest => do if ← c.evaluate then evaluateAll rest else return false

/-- Whether some condition holds; those behind one that does are not looked at. -/
def evaluateAny : List Condition → Draw Bool
  | [] => return false
  | c :: rest => do if ← c.evaluate then return true else evaluateAny rest

end

/-- Whether a condition holds; one that cannot be evaluated does not. -/
def check (c : Condition) : StateM Generator Bool := fun g =>
  match (c.evaluate s item).run.run g with
  | (.ok value, g) => (value, g)
  | (.error _, g) => (false, g)

end

end Condition

end Parley
