import Parley.Actor.Sheet

/-!
# The other speaker

A speaker led by the game: a sheet, an opinion of the player, rules of behaviour, and a board of
missions that can be offered, assigned and finished.
-/

namespace Parley

/-- How far a mission on the board has come. -/
inductive MissionStatus where
  | available
  | assigned
  | succeeded
  | failed
deriving DecidableEq, Repr

/-- The name of a status. -/
def MissionStatus.name : MissionStatus → String
  | .available => "available"
  | .assigned => "assigned"
  | .succeeded => "succeeded"
  | .failed => "failed"

/-- All statuses by name. -/
def MissionStatus.table : List (String × MissionStatus) :=
  [.available, .assigned, .succeeded, .failed].map fun s => (s.name, s)

/-- A mission on the board. -/
structure Mission where
  value : Int32
  status : MissionStatus
deriving DecidableEq, Repr

/-- Read a mission. -/
def Mission.reader (way : Leeway) : Reader Mission :=
  Fields.readWith way <|
    Mission.mk <$> .required "value" .int32
      <*> .required "status" (.choice way MissionStatus.table)

/-- A speaker led by the game. -/
structure Npc where
  sheet : Sheet
  opinion : Opinion := .zero
  angerThreshold : Int32 := 20
  hostile : Bool := false
  following : Bool := false
  rules : NameSet := .empty
  ruleSettings : Dict String := .empty
  missions : Dict Mission := .empty
  missionTypes : Dict Int32 := .empty
  selectedMission : Option String := none
  debt : Int32 := 0
  factionRep : Int32 := 0
  factionTrust : Int32 := 0
  classId : String := ""
  firstTopic : Option String := none
  chosenTraining : Training := .none
  actions : List Action := []
  controllable : Bool := false
  controlled : Bool := false

namespace Npc

/-- A speaker with nothing but a sheet. -/
def ofSheet (sheet : Sheet) : Npc := { sheet }

/-- The speaker with one more mission on the board. -/
def withMission (n : Npc) (id : String) (value : Int32) : Npc :=
  { n with missions := n.missions.insert id ⟨value, .available⟩ }

/-- Has the speaker turned hostile, in deed or in temper? -/
def turnedHostile (n : Npc) : Bool := n.hostile || n.angerThreshold ≤ n.opinion.anger

/-- Would this much more anger turn the speaker hostile? -/
def checkHostileResponse (n : Npc) (anger : Int32) : Bool :=
  0 < anger && n.angerThreshold ≤ add32 n.opinion.anger anger

/-- Make the speaker an enemy. -/
def makeAngry (n : Npc) : Npc := { n with hostile := true, following := false }

/-- Do something at once. -/
def performAction (n : Npc) (action : Action) : Npc :=
  let n := match action with
    | .hostile | .insultCombat => n.makeAngry
    | .follow => { n with following := true }
    | .stopFollowing | .leave | .flee => { n with following := false }
    | .makeNeutral => { n with hostile := false }
    | _ => n
  { n with actions := n.actions ++ [action] }

/-- The missions with a status. -/
def missionsWith (n : Npc) (status : MissionStatus) : List String :=
  (n.missions.entries.filter (·.2.status = status)).map (·.1)

/-- Set the status of a mission on the board. -/
def setStatus (n : Npc) (id : String) (status : MissionStatus) : Except Failure Npc :=
  match n.missions.get? id with
  | some mission => .ok { n with missions := n.missions.insert id { mission with status } }
  | none => .error (.lookup .mission id)

/-- Finish a mission; it is no longer the selected one. -/
def finishMission (n : Npc) (id : String) (success : Bool) : Except Failure Npc := do
  let n ← n.setStatus id (if success then .succeeded else .failed)
  pure (if n.selectedMission = some id then { n with selectedMission := none } else n)

/-- Put a mission of a known type on the board, if it is not there. -/
def offerMission (n : Npc) (id : String) : Except Failure Npc :=
  match n.missionTypes.get? id with
  | some value =>
    .ok (if n.missions.contains id then n
      else { n with missions := n.missions.insert id ⟨value, .available⟩ })
  | none => .error (.lookup .missionType id)

/-- Put a mission of a known type on the board and assign it. -/
def addMission (n : Npc) (id : String) : Except Failure Npc := do
  let n ← n.offerMission id
  n.setStatus id .assigned

/-- The value of the selected mission, if that is on the board. -/
def selectedMissionValue (n : Npc) : Option Int32 := do
  let id ← n.selectedMission
  let mission ← n.missions.get? id
  pure mission.value

/-- Let the player take over. -/
def takeControl (n : Npc) : Except Failure Npc :=
  if n.controllable then .ok { n with controlled := true }
  else .error (.lookup .controllableActor n.sheet.name)

instance : Actor Npc :=
  { Sheet.actor Npc.sheet fun n sheet => { n with sheet } with
    opinion
    addOpinion := fun n delta => { n with opinion := n.opinion.add delta }
    checkHostileResponse
    turnedHostile
    makeAngry
    addDebt := fun n amount => { n with debt := add32 n.debt amount }
    isFollowing := following
    changeFactionRep := fun n delta => { n with factionRep := add32 n.factionRep delta }
    factionTrust
    changeFactionTrust := fun n delta => { n with factionTrust := add32 n.factionTrust delta }
    setClass := fun n classId => { n with classId }
    hasMission := fun n id => n.missions.contains id
    assignMission := fun n id => n.setStatus id .assigned
    finishMission
    offerMission
    addMission
    assignedMissions := fun n => n.missionsWith .assigned
    availableMissions := fun n => n.missionsWith .available
    selectMission := fun n id => { n with selectedMission := some id }
    selectedMissionValue
    hasRule := fun n rule => n.rules.contains rule
    toggleRule := fun n rule =>
      { n with rules := if n.rules.contains rule then n.rules.erase rule else n.rules.add rule }
    setRule := fun n rule => { n with rules := n.rules.add rule }
    clearRule := fun n rule => { n with rules := n.rules.erase rule }
    setRuleSetting := fun n setting value =>
      { n with ruleSettings := n.ruleSettings.insert setting.name value }
    storeChosenTraining := fun n chosenTraining => { n with chosenTraining }
    setFirstTopic := fun n topic => { n with firstTopic := some topic }
    performAction
    takeControl }

/-- Read a speaker. The leeway is for what a speaker has besides a sheet. -/
def reader (way : Leeway) : Reader Npc :=
  Sheet.readWith <|
    (fun opinion angerThreshold hostile following rules missions missionTypes selectedMission
        debt factionRep factionTrust classId firstTopic controllable controlled sheet =>
      { sheet, opinion, angerThreshold, hostile, following, rules, missions, missionTypes,
        selectedMission, debt, factionRep, factionTrust, classId, firstTopic, controllable,
        controlled })
      <$> .orElse "opinion" (Opinion.fields.readWith way) .zero
      <*> .orElse "anger_threshold" .int32 20
      <*> .orElse "hostile" .bool false
      <*> .orElse "following" .bool false
      <*> .orElse "rules" .names .empty
      <*> .orElse "missions" (.dict (Mission.reader way)) .empty
      <*> .orElse "mission_types" (.dict .int32) .empty
      <*> .orElse "selected_mission" (.nullable .string) none
      <*> .orElse "debt" .int32 0
      <*> .orElse "faction_rep" .int32 0
      <*> .orElse "faction_trust" .int32 0
      <*> .orElse "class" .string ""
      <*> .orElse "first_topic" (.nullable .string) none
      <*> .orElse "controllable" .bool false
      <*> .orElse "controlled" .bool false

end Npc

end Parley
