import Parley.Failure

/-!
# Variables

Texts are stored under names in three places: with the player, with the other speaker, and
globally. Two further scopes can be written but have no store.
-/

namespace Parley

/-- Where a variable is kept. -/
inductive Scope where
  | global
  | u
  | npc
  | faction
  | party
deriving DecidableEq, Repr

namespace Scope

/-- The name of a scope. -/
def name : Scope → String
  | .global => "global"
  | .u => "u"
  | .npc => "npc"
  | .faction => "faction"
  | .party => "party"

/-- All scopes by name. -/
def table : List (String × Scope) :=
  [.global, .u, .npc, .faction, .party].map fun s => (s.name, s)

/-- Is there a store for the scope? -/
def isSupported : Scope → Bool
  | .faction => false
  | .party => false
  | _ => true

end Scope

/-- A variable: its scope and the name under which it is stored there. -/
structure Variable where
  scope : Scope
  name : String
deriving DecidableEq, Repr

/-- The variable written with a name, a type and a context; the latter two, where given, stand in
front of the name with a low line behind each. -/
def Variable.resolve (name : String) (scope : Scope) (type context : Option String) :
    Except Failure Variable :=
  if !scope.isSupported then .error (.unsupportedScope scope.name)
  else if name = "" then .error (.content "var" "variable name is empty")
  else
    let part (s : Option String) := match s with
      | some s => s ++ "_"
      | none => ""
    .ok ⟨scope, part type ++ part context ++ name⟩

namespace Variable

/-- The fields that write a variable. -/
def fields (way : Leeway) : Fields (Except Failure Variable) :=
  (fun name scope type context => resolve name scope type context)
    <$> .required "var" .string
    <*> .orElse "scope" (.choice way Scope.table) .u
    <*> .optional "var_type" .string
    <*> .optional "context" .string

end Variable

end Parley
