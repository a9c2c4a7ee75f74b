import Parley.Condition.Reader

/-!
# Lines

What is said on a topic: fixed text, lines joined into one, or a line chosen by conditions. A
condition that cannot be evaluated does not hold.
-/

namespace Parley

/-- What is said on a topic. -/
inductive Line where
  | fixed (text : String)
  /-- Several lines in a row. -/
  | concat (parts : List Line)
  | conditional (condition : Condition) (yes no : Line)
  /-- The first branch whose condition holds, else the default. -/
  | cascade (branches : List (Condition × Line)) (default : Option Line)

namespace Line

/-- Texts joined by single spaces, the empty ones left out. -/
def join (parts : List (Option String)) : String :=
  " ".intercalate ((parts.filterMap id).filter (· ≠ ""))

section

variable {α β : Type} [Actor α] [Actor β] (s : Scene α β)

mutual

/-- The text of a line, if it comes to any. -/
def render : Line → StateM Generator (Option String)
  | .fixed text => pure (some text)
  | .concat parts => do return some (join (← renderAll parts))
  | .conditional condition yes no => do
    if ← condition.check s none then yes.render else no.render
  | .cascade branches default => do
    match ← renderFirst branches with
    | some text => pure text
    | none => renderDefault default

/-- The texts of lines, in order. -/
def renderAll : List Line → StateM Generator (List (Option String))
  | [] => pure []
  | line :: rest => do
    let text ← line.render
    let texts ← renderAll rest
    return text :: texts

/-- The text of the first branch whose condition holds, if there is one. -/
def renderFirst : List (Condition × Line) → StateM Generator (Option (Option String))
  | [] => pure none
  | (condition, line) :: rest => do
    if ← condition.check s none then return some (← line.render) else renderFirst rest

/-- The text of a default. -/
def renderDefault : Option Line → StateM Generator (Option String)
  | none => pure none
  | some line => line.render

end

end

/-- A line is refused. -/
def refuse {α : Type} (message : String) : Except Failure α :=
  .error (.content "dynamic_line" message)

/-- The value under a key that has to be there. -/
def part (key : String) (j : Json) (message : String) : Except Failure Json :=
  match j.field? key with
  | some j => .ok j
  | none => refuse message

/-- The line that content writes, nested at most `depth` deep. -/
def readNested : Nat → Json → Except Failure Line
  | 0, j => refuse ("unsupported line " ++ j.render)
  | depth + 1, j =>
    match j with
    | .str text => .ok (.fixed text)
    | .arr parts => do return .concat (← parts.mapM (readNested depth))
    | .obj _ => match j.field? "branches" with
      | some (.arr branches) => do
        let branches ← branches.mapM fun b => do
          let condition ← part "condition" b "branch without condition"
          let line ← part "line" b "branch without line"
          return (← Condition.ofJson condition, ← readNested depth line)
        match j.field? "default" with
        | some default => return .cascade branches (some (← readNested depth default))
        | none => return .cascade branches none
      | some _ => refuse "branches must be an array"
      | none => do
        let condition ← part "condition" j "missing \"condition\""
        let condition ← Condition.ofJson condition
        let yes ← readNested depth (← part "yes" j "missing \"yes\"")
        let no ← readNested depth (← part "no" j "missing \"no\"")
        return .conditional condition yes no
    | other => refuse ("unsupported line " ++ other.render)

/-- The line that content writes. -/
def ofJson (j : Json) : Except Failure Line := readNested j.depth j

end Line

end Parley
