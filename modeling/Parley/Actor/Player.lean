import Parley.Actor.Sheet

/-!
# The player

The player's side of a conversation: a sheet, the missions taken on and those that are over.
-/

namespace Parley

/-- The player. -/
structure Player where
  sheet : Sheet
  activeMissions : NameSet := .empty
  completedMissions : List (String × Bool) := []

namespace Player

/-- A player with nothing but a sheet. -/
def ofSheet (sheet : Sheet) : Player := { sheet }

/-- Take a mission on. -/
def assignMission (p : Player) (id : String) : Player :=
  { p with activeMissions := p.activeMissions.add id }

/-- Finish a mission that was taken on. -/
def finishMission (p : Player) (id : String) (success : Bool) : Except Failure Player :=
  if p.activeMissions.contains id then
    .ok { p with
      activeMissions := p.activeMissions.erase id
      completedMissions := p.completedMissions ++ [(id, success)] }
  else .error (.lookup .mission id)

instance : Actor Player :=
  { Sheet.actor Player.sheet fun p sheet => { p with sheet } with
    isPlayer := fun _ => true
    hasMission := fun p id => p.activeMissions.contains id
    assignMission := fun p id => .ok (p.assignMission id)
    finishMission
    addMission := fun p id => .ok (p.assignMission id) }

/-- Read a player. The leeway is for what a player has besides a sheet. -/
def reader (way : Leeway) : Reader Player :=
  Sheet.readWith <|
    (fun active completed sheet => ⟨sheet, active, completed⟩)
      <$> .orElse "active_missions" .names .empty
      <*> .orElse "completed_missions" (.list (.pair way .string .bool)) []

end Player

end Parley
