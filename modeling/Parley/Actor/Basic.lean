import Parley.Actor.Values
import Parley.Item

/-!
# Actors

`Actor α` says what can be asked of an actor that is represented by `α`, and what can be done to
it. Only a name is required: whatever an instance leaves out behaves as for an actor that lacks
the ability. An operation that may fail hands back the actor as it is after the operation, and
changes nothing when it fails.
-/

namespace Parley

/-- The abilities of an actor represented by `α`. -/
class Actor (α : Type) where
  name : α → String
  isPlayer : α → Bool := fun _ => false
  -- Traits, passing effects and implants.
  hasTrait : α → String → Bool := fun _ _ => false
  addTrait : α → String → α := fun a _ => a
  removeTrait : α → String → α := fun a _ => a
  mutate : α → (category : Option String) → (useVitamins : Bool) → Except Failure α :=
    fun a _ _ => .error (.lookup .mutationSource (name a))
  hasEffect : α → String → Bool := fun _ _ => false
  addEffect : α → String → Duration → (permanent : Bool) → (intensity : Int32) → α :=
    fun a _ _ _ _ => a
  removeEffect : α → String → α := fun a _ => a
  hasBionic : α → String → Bool := fun _ _ => false
  addBionic : α → String → α := fun a _ => a
  removeBionic : α → String → α := fun a _ => a
  -- Skills and stats.
  skillLevel : α → String → Int32 := fun _ _ => 0
  practiceSkill : α → String → (amount : Int32) → α := fun a _ _ => a
  stat : α → Stat → Int32 := fun _ _ => 8
  socialMod : α → Social → Int32 := fun _ _ => 0
  -- Belongings.
  inventory : α → List Item := fun _ => []
  canAccept : α → Item → Bool := fun _ _ => false
  addItem : α → Item → Except Failure α := fun a _ => .error (.lookup .inventory (name a))
  removeItems : α → (type : String) → (count : Int32) → Except Failure α :=
    fun _ type _ => .error (.lookup .item type)
  removeAllItems : α → (type : String) → Int32 × α := fun a _ => (0, a)
  cash : α → Int64 := fun _ => 0
  addCash : α → Int64 → α := fun a _ => a
  -- Whereabouts.
  position : α → Position := fun _ => .origin
  teleport : α → Position → Except Failure α :=
    fun a _ => .error (.lookup .teleportTarget (name a))
  -- Relationship.
  opinion : α → Opinion := fun _ => .zero
  addOpinion : α → Opinion → α := fun a _ => a
  checkHostileResponse : α → (anger : Int32) → Bool := fun _ _ => false
  turnedHostile : α → Bool := fun _ => false
  makeAngry : α → α := id
  addDebt : α → Int32 → α := fun a _ => a
  isFollowing : α → Bool := fun _ => false
  -- Faction and class.
  faction : α → String := fun _ => ""
  setFaction : α → String → α := fun a _ => a
  changeFactionRep : α → Int32 → α := fun a _ => a
  factionTrust : α → Int32 := fun _ => 0
  changeFactionTrust : α → Int32 → α := fun a _ => a
  setClass : α → String → α := fun a _ => a
  -- Variables.
  value? : α → String → Option String := fun _ _ => none
  setValue : α → (name value : String) → α := fun a _ _ => a
  removeValue : α → String → α := fun a _ => a
  -- Missions.
  hasMission : α → String → Bool := fun _ _ => false
  assignMission : α → String → Except Failure α := fun _ id => .error (.lookup .mission id)
  finishMission : α → String → (success : Bool) → Except Failure α :=
    fun _ id _ => .error (.lookup .mission id)
  offerMission : α → String → Except Failure α := fun _ id => .error (.lookup .mission id)
  addMission : α → String → Except Failure α := fun _ id => .error (.lookup .missionType id)
  assignedMissions : α → List String := fun _ => []
  availableMissions : α → List String := fun _ => []
  selectMission : α → String → α := fun a _ => a
  selectedMissionValue : α → Option Int32 := fun _ => none
  -- Rules of behaviour.
  hasRule : α → String → Bool := fun _ _ => false
  toggleRule : α → String → α := fun a _ => a
  setRule : α → String → α := fun a _ => a
  clearRule : α → String → α := fun a _ => a
  setRuleSetting : α → RuleSetting → String → α := fun a _ _ => a
  -- Magic, recipes, mood and body.
  castSpell : α → String → (target : Option Position) → Except Failure α :=
    fun _ spell _ => .error (.lookup .spell spell)
  learnRecipe : α → String → Except Failure α := fun _ recipe => .error (.lookup .recipe recipe)
  moraleLevel : α → Int32 := fun _ => 0
  addMorale : α → MoraleChange → α := fun a _ => a
  removeMorale : α → String → α := fun a _ => a
  modHealthy : α → (amount cap : Int32) → α := fun a _ _ => a
  modFatigue : α → Int32 → α := fun a _ => a
  addWet : α → Int32 → α := fun a _ => a
  assignActivity : α → String → Duration → α := fun a _ _ => a
  -- Output and world.
  addMessage : α → String → MessageKind → α := fun a _ _ => a
  makeSound : α → String → (volume : Int32) → (ambient : Bool) → α := fun a _ _ _ => a
  spawnMonster : α → String → (count : Int32) → (hostile : Bool) → (radius : Int32) →
    Except Failure (Int32 × α) := fun _ monster _ _ _ => .error (.lookup .monster monster)
  -- Conversation.
  storeChosenTraining : α → Training → α := fun a _ => a
  setFirstTopic : α → String → α := fun a _ => a
  performAction : α → Action → α := fun a _ => a
  takeControl : α → Except Failure α := fun a => .error (.lookup .controllableActor (name a))

namespace Actor

variable {α : Type} [Actor α]

/-- How many items of a type the actor has. -/
def itemCount (a : α) (type : String) : Int32 := Item.countType type (inventory a)

/-- Has the actor any item of a type? -/
def hasItem (a : α) (type : String) : Bool := 0 < itemCount a type

/-- How many items of a category the actor has. -/
def categoryCount (a : α) (category : String) : Int32 :=
  Item.countCategory category (inventory a)

/-- Store a text for a variable, or remove what is stored. -/
def write (a : α) (name : String) : Option String → α
  | some value => setValue a name value
  | none => removeValue a name

end Actor

end Parley
