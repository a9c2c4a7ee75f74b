import Parley.Actor.Basic
import Parley.Quantity
import Parley.Random.Generator
import Parley.Text.Basic

/-!
# The scene

What conditions and references look at: the two actors, the global variables, the topics entered
so far and the missions taken on. Looking never changes the scene. Ranges do draw from the random
generator, and what was drawn stays drawn when the evaluation fails afterwards; `Draw` is the type
of such an evaluation.
-/

namespace Parley

/-- A topic that was entered. -/
structure Entry where
  id : String
  /-- The type of the item that the topic is about. -/
  item : Option String := none
  reason : String := ""
deriving DecidableEq, Repr

/-- What can be looked at during a conversation between `u` and `npc`. -/
structure Scene (α β : Type) where
  u : α
  npc : β
  globals : Dict String
  /-- The topic that is being talked about. -/
  current : Entry
  /-- The topics before that, the last one first. -/
  earlier : List Entry
  missionsAssigned : List String
  byRadio : Bool

/-- One of the two actors. -/
inductive Target where
  | u
  | npc
deriving DecidableEq, Repr

namespace Target

/-- The name of an actor in content. -/
def name : Target → String
  | .u => "u"
  | .npc => "npc"

/-- Both actors by name. -/
def table : List (String × Target) := [.u, .npc].map fun t => (t.name, t)

/-- The other actor. -/
def other : Target → Target
  | .u => .npc
  | .npc => .u

end Target

namespace Scene

variable {α β γ : Type} [Actor α] [Actor β]

/-- Ask one of the actors. -/
def ask (s : Scene α β) (t : Target) (question : {δ : Type} → [Actor δ] → δ → γ) : γ :=
  match t with
  | .u => question s.u
  | .npc => question s.npc

/-- The text stored for a variable. -/
def read (s : Scene α β) (var : Variable) : Except Failure (Option String) :=
  match var.scope with
  | .global => .ok (s.globals.get? var.name)
  | .u => .ok (Actor.value? s.u var.name)
  | .npc => .ok (Actor.value? s.npc var.name)
  | scope => .error (.unsupportedScope scope.name)

/-- The text stored for a variable, unless it is empty. -/
def readText (s : Scene α β) (var : Variable) : Except Failure (Option String) :=
  (s.read var).map (·.filter (· ≠ ""))

/-- The topics entered so far, the first one first. -/
def entries (s : Scene α β) : List Entry := s.earlier.reverse ++ [s.current]

end Scene

/-- An evaluation that may draw random numbers and may fail. -/
abbrev Draw (α : Type) : Type := ExceptT Failure (StateM Generator) α

namespace Draw

variable {α : Type}

/-- An evaluation that draws nothing. -/
def ofExcept (e : Except Failure α) : Draw α := ExceptT.mk (pure e)

/-- A number from `lo` to `hi`. -/
def sample (lo hi : Int64) (h : lo ≤ hi) : Draw Int64 :=
  ExceptT.mk fun g => let (n, g) := g.sample lo hi h; (.ok n, g)

/-- A number between two bounds, in whichever order they are given. -/
def between (a b : Int64) : Draw Int64 := sample (min a b) (max a b) (min64_le_max64 a b)

end Draw

/-- The integer that a stored text writes, blanks around it aside. -/
def Variable.decode (expected : Expected) (var : Variable) (text : String) :
    Except Failure Int64 :=
  match (Text.integer? (Text.trim text.toList)).bind int64? with
  | some n => .ok n
  | none => .error (.variableText var.name text expected)

/-- The value of an operand; `decode` says what a stored text means. -/
def Operand.evaluate {α β γ : Type} [Actor α] [Actor β]
    (decode : Variable → String → Except Failure γ) (s : Scene α β) :
    Operand γ → Except Failure γ
  | .literal value => .ok value
  | .stored var default => do
    match ← s.readText var with
    | some text => decode var text
    | none => .ok default

/-- The value of a text reference. -/
def TextRef.evaluate {α β : Type} [Actor α] [Actor β] (s : Scene α β) (ref : TextRef) :
    Except Failure String :=
  Operand.evaluate (fun _ text => .ok text) s ref

/-- The value of an integer reference. -/
def IntRef.evaluate {α β : Type} [Actor α] [Actor β] (s : Scene α β) : IntRef → Draw Int64
  | .single part => Draw.ofExcept (part.evaluate (Variable.decode .integer) s)
  | .range lo hi => do
    let a ← Draw.ofExcept (lo.evaluate (Variable.decode .integer) s)
    let b ← Draw.ofExcept (hi.evaluate (Variable.decode .integer) s)
    Draw.between a b

/-- The duration that a stored text writes, in turns. -/
def Duration.decode (var : Variable) (text : String) : Except Failure Duration :=
  (var.decode .duration text).map (⟨·⟩)

/-- The value of a duration reference. -/
def DurationRef.evaluate {α β : Type} [Actor α] [Actor β] (s : Scene α β) :
    DurationRef → Draw Duration
  | .single part => Draw.ofExcept (part.evaluate Duration.decode s)
  | .range lo hi => do
    let a ← Draw.ofExcept (lo.evaluate Duration.decode s)
    let b ← Draw.ofExcept (hi.evaluate Duration.decode s)
    return ⟨← Draw.between a.turns b.turns⟩

end Parley
