import Parley.Dict
import Parley.Json.Basic

/-!
# Writing typed data as JSON

A writer takes a typed value to JSON. The writers here are the counterparts of the readers: what
they write of a value, the reader of the same name reads.
-/

namespace Parley

/-- A way to write a value of a type. -/
abbrev Writer (α : Type) : Type := α → Json

namespace Writer

variable {α β : Type}

/-- A string. -/
def string : Writer String := Json.str

/-- A truth value. -/
def bool : Writer Bool := Json.bool

/-- A natural number. -/
def natural : Writer Nat := fun n => .int n

/-- A signed 32-bit integer. -/
def int32 : Writer Int32 := fun n => .int n.toInt

/-- A signed 64-bit integer. -/
def int64 : Writer Int64 := fun n => .int n.toInt

/-- A list. -/
def list (w : Writer α) : Writer (List α) := fun l => .arr (l.map w)

/-- A pair, as an array of two. -/
def pair (w : Writer α) (v : Writer β) : Writer (α × β) := fun p => .arr [w p.1, v p.2]

/-- A dictionary, as an object. -/
def dict (w : Writer α) : Writer (Dict α) := fun d => .obj (d.entries.map fun e => (e.1, w e.2))

/-- A set of names, as an array in ascending order. -/
def names : Writer NameSet := fun s => list string s.keys

/-- A value or `null`. -/
def nullable (w : Writer α) : Writer (Option α)
  | some a => w a
  | none => .null

end Writer

end Parley
