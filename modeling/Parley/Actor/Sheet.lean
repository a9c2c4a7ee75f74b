import Parley.Actor.Basic

/-!
# Character sheets

What the player and the other speakers have in common: a sheet with belongings, abilities,
variables and a record of what happened to them. `Sheet.actor` gives the abilities of an actor
from the place where it keeps its sheet.
-/

namespace Parley

/-- The measured abilities. -/
structure Stats where
  strength : Int32
  dexterity : Int32
  intelligence : Int32
  perception : Int32
deriving DecidableEq, Repr

namespace Stats

/-- Average abilities. -/
def average : Stats := ⟨8, 8, 8, 8⟩

/-- One of the abilities. -/
def get (s : Stats) : Stat → Int32
  | .strength => s.strength
  | .dexterity => s.dexterity
  | .intelligence => s.intelligence
  | .perception => s.perception

/-- The fields of the abilities. -/
def fields : Fields Stats :=
  Stats.mk <$> .required "strength" .int32 <*> .required "dexterity" .int32
    <*> .required "intelligence" .int32 <*> .required "perception" .int32

end Stats

/-- What is known about a character. -/
structure Sheet where
  name : String
  traits : NameSet := .empty
  effects : Dict Int32 := .empty
  bionics : NameSet := .empty
  skills : Dict Int32 := .empty
  skillPractice : Dict Int32 := .empty
  stats : Stats := .average
  socialBonuses : Dict Int32 := .empty
  inventory : List Item := []
  cash : Int64 := 0
  position : Position := .origin
  faction : String := ""
  vars : Dict String := .empty
  knownSpells : NameSet := .empty
  learnableRecipes : NameSet := .empty
  knownRecipes : NameSet := .empty
  mutationPool : Dict (List String) := .empty
  morale : Dict Int32 := .empty
  health : Int32 := 0
  fatigue : Int32 := 0
  wetness : Int32 := 0
  activity : Option String := none
  messages : List String := []
  sounds : List String := []
  spellsCast : List String := []
  spawnableMonsters : NameSet := .empty
  spawnedMonsters : List (String × Int32) := []

namespace Sheet

/-- The sheet of a new character. -/
def new (name : String) : Sheet := { name }

/-- The sheet with a skill at a level. -/
def withSkill (s : Sheet) (skill : String) (level : Int32) : Sheet :=
  { s with skills := s.skills.insert skill level }

/-- The sheet with one more stack in the inventory. -/
def withItem (s : Sheet) (item : Item) : Sheet := { s with inventory := s.inventory ++ [item] }

/-- The sheet with an amount of cash. -/
def withCash (s : Sheet) (cash : Int64) : Sheet := { s with cash }

/-- The sheet with one more trait. -/
def withTrait (s : Sheet) (id : String) : Sheet := { s with traits := s.traits.add id }

/-- How good the character is at talking someone round. -/
def socialMod (s : Sheet) (social : Social) : Int32 :=
  let base := match social with
    | .lie => add32 (sub32 s.stats.intelligence 8) (sub32 s.stats.perception 8)
    | .persuade => mul32 (sub32 s.stats.intelligence 8) 2
    | .intimidate => mul32 (sub32 s.stats.strength 8) 3
  add32 base ((s.socialBonuses.get? social.name).getD 0)

/-- Add a stack to the inventory; it has to hold something. -/
def addItem (s : Sheet) (item : Item) : Except Failure Sheet :=
  if 0 < item.count then .ok (s.withItem item)
  else .error (.invalidCount item.type item.count.toInt64)

/-- Take a number of items of a type out of the inventory. -/
def removeItems (s : Sheet) (type : String) (count : Int32) : Except Failure Sheet :=
  if count ≤ 0 then .error (.invalidCount type count.toInt64)
  else if Item.countType type s.inventory < count then .error (.lookup .item type)
  else .ok { s with inventory := Item.remove type count.toInt.toNat s.inventory }

/-- Take all items of a type out of the inventory, and say how many there were. -/
def removeAllItems (s : Sheet) (type : String) : Int32 × Sheet :=
  let count := Item.countType type s.inventory
  if 0 < count then
    match s.removeItems type count with
    | .ok s => (count, s)
    | .error _ => (0, s)
  else (0, s)

/-- The traits that mutating can give, in the order in which they are given. -/
def mutations (s : Sheet) : Option String → Except Failure (List String)
  | some category => match s.mutationPool.get? category with
    | some traits => .ok traits
    | none => .error (.lookup .mutationCategory category)
  | none => .ok s.mutationPool.values.flatten

/-- Add the first trait that mutating can give and that the character has not. -/
def mutate (s : Sheet) (category : Option String) : Except Failure Sheet := do
  let traits ← s.mutations category
  match traits.find? fun t => !s.traits.contains t with
  | some t => pure { s with traits := s.traits.add t }
  | none => .error (.lookup .mutation (category.getD "any"))

/-- A mutation gives the trait that is found, and changes nothing else. -/
theorem mutate_eq_ok {s s' : Sheet} {category : Option String} :
    s.mutate category = .ok s' ↔ ∃ traits t, s.mutations category = .ok traits ∧
      (traits.find? fun t => !s.traits.contains t) = some t ∧ s' = s.withTrait t := by
  rw [mutate]
  cases s.mutations category with
  | error failure => exact iff_of_false nofun nofun
  | ok traits =>
    dsimp only [bind, Except.bind]
    constructor
    · intro h
      split at h
      · rename_i t found
        exact ⟨traits, t, rfl, found, (Except.ok.inj h).symm⟩
      · contradiction
    · rintro ⟨_, t, ⟨⟩, found, rfl⟩
      rw [found]
      rfl

/-- Change the mood. A capped change, or one with a limit, keeps within the limit either way. -/
def addMorale (s : Sheet) (change : MoraleChange) : Sheet :=
  let next := add32 ((s.morale.get? change.kind).getD 0) change.bonus
  let next := if change.capped ∨ change.maxBonus ≠ 0 then
      capped32 (abs32 change.maxBonus) next (abs32_nonneg _)
    else next
  { s with morale := s.morale.insert change.kind next }

/-- The sum of all moods. -/
def moraleLevel (s : Sheet) : Int32 := s.morale.values.foldl add32 0

/-- Change the health, within a limit either way if that is positive. -/
def modHealthy (s : Sheet) (amount cap : Int32) : Sheet :=
  let next := add32 s.health amount
  { s with health := if h : 0 < cap then capped32 cap next (Int32.le_of_lt h) else next }

/-- Cast a spell that the character knows. -/
def castSpell (s : Sheet) (spell : String) : Except Failure Sheet :=
  if s.knownSpells.contains spell then .ok { s with spellsCast := s.spellsCast ++ [spell] }
  else .error (.lookup .spell spell)

/-- Learn a recipe that can be learnt. -/
def learnRecipe (s : Sheet) (recipe : String) : Except Failure Sheet :=
  if s.learnableRecipes.contains recipe then
    .ok { s with knownRecipes := s.knownRecipes.add recipe }
  else .error (.lookup .recipe recipe)

/-- Have monsters appear, and say how many. -/
def spawnMonster (s : Sheet) (monster : String) (count : Int32) : Except Failure (Int32 × Sheet) :=
  if s.spawnableMonsters.contains monster then
    .ok (count, { s with spawnedMonsters := s.spawnedMonsters ++ [(monster, count)] })
  else .error (.lookup .monster monster)

/-! ### The abilities of an actor with a sheet -/

/-- The abilities that come from the sheet which `get` finds and `set` replaces. -/
@[reducible] def actor {α : Type} (get : α → Sheet) (set : α → Sheet → α) : Actor α where
  name a := (get a).name
  hasTrait a id := (get a).traits.contains id
  addTrait a id := set a { get a with traits := (get a).traits.add id }
  removeTrait a id := set a { get a with traits := (get a).traits.erase id }
  mutate a category _ := ((get a).mutate category).map (set a)
  hasEffect a id := (get a).effects.contains id
  addEffect a id _ _ intensity :=
    set a { get a with effects := (get a).effects.insert id (max intensity 1) }
  removeEffect a id := set a { get a with effects := (get a).effects.erase id }
  hasBionic a id := (get a).bionics.contains id
  addBionic a id := set a { get a with bionics := (get a).bionics.add id }
  removeBionic a id := set a { get a with bionics := (get a).bionics.erase id }
  skillLevel a skill := ((get a).skills.get? skill).getD 0
  practiceSkill a skill amount :=
    let practice := add32 (((get a).skillPractice.get? skill).getD 0) amount
    set a { get a with skillPractice := (get a).skillPractice.insert skill practice }
  stat a stat := (get a).stats.get stat
  socialMod a social := (get a).socialMod social
  inventory a := (get a).inventory
  canAccept _ item := 0 < item.count
  addItem a item := ((get a).addItem item).map (set a)
  removeItems a type count := ((get a).removeItems type count).map (set a)
  removeAllItems a type := ((get a).removeAllItems type).map id (set a)
  cash a := (get a).cash
  addCash a delta := set a { get a with cash := add64 (get a).cash delta }
  position a := (get a).position
  teleport a position := .ok (set a { get a with position })
  faction a := (get a).faction
  setFaction a faction := set a { get a with faction }
  value? a name := (get a).vars.get? name
  setValue a name value := set a { get a with vars := (get a).vars.insert name value }
  removeValue a name := set a { get a with vars := (get a).vars.erase name }
  castSpell a spell _ := ((get a).castSpell spell).map (set a)
  learnRecipe a recipe := ((get a).learnRecipe recipe).map (set a)
  moraleLevel a := (get a).moraleLevel
  addMorale a change := set a ((get a).addMorale change)
  removeMorale a kind := set a { get a with morale := (get a).morale.erase kind }
  modHealthy a amount cap := set a ((get a).modHealthy amount cap)
  modFatigue a amount := set a { get a with fatigue := max (add32 (get a).fatigue amount) 0 }
  addWet a amount :=
    set a { get a with wetness := percent32 (add32 (get a).wetness amount) }
  assignActivity a activity _ := set a { get a with activity := some activity }
  addMessage a text _ := set a { get a with messages := (get a).messages ++ [text] }
  makeSound a text volume _ :=
    set a { get a with
      sounds := (get a).sounds ++ [text ++ " (" ++ toString volume.toInt ++ ")"] }
  spawnMonster a monster count _ _ :=
    ((get a).spawnMonster monster count).map fun (n, s) => (n, set a s)

/-! ### Reading -/

/-- The fields of a sheet. -/
def fields : Fields Sheet :=
  Sheet.mk <$> .required "name" .string
    <*> .orElse "traits" .names .empty
    <*> .orElse "effects" (.dict .int32) .empty
    <*> .orElse "bionics" .names .empty
    <*> .orElse "skills" (.dict .int32) .empty
    <*> .orElse "skill_practice" (.dict .int32) .empty
    <*> .orElse "stats" Stats.fields.read .average
    <*> .orElse "social_bonuses" (.dict .int32) .empty
    <*> .orElse "inventory" (.list Item.reader) []
    <*> .orElse "cash" .int64 0
    <*> .orElse "position" Position.reader .origin
    <*> .orElse "faction" .string ""
    <*> .orElse "vars" (.dict .string) .empty
    <*> .orElse "known_spells" .names .empty
    <*> .orElse "learnable_recipes" .names .empty
    <*> .orElse "known_recipes" .names .empty
    <*> .orElse "mutation_pool" (.dict (.list .string)) .empty
    <*> .orElse "morale" (.dict .int32) .empty
    <*> .orElse "health" .int32 0
    <*> .orElse "fatigue" .int32 0
    <*> .orElse "wetness" .int32 0
    <*> .orElse "activity" (.nullable .string) none
    <*> .orElse "messages" (.list .string) []
    <*> .orElse "sounds" (.list .string) []
    <*> .orElse "spells_cast" (.list .string) []
    <*> .orElse "spawnable_monsters" .names .empty
    <*> .orElse "spawned_monsters" (.list (.pair .strict .string .int32)) []

/-- Read a record that stands on one level with a sheet: its own fields decide first. -/
def readWith {α : Type} (own : Fields (Sheet → α)) : Reader α := fun j => do
  let f ← own.readObject j
  let sheet ← fields.readObject j
  pure (f sheet)

end Sheet

end Parley
