import Parley.Dict
import Parley.Json.Basic
import Parley.Number.Basic

/-!
# Reading typed data from JSON

A reader takes a JSON value to a typed one or says why it cannot. Records are read by `Fields`:
the keys of an object are taken in ascending order and the first value that cannot be read
decides; only when all values can be read does a missing field count, and then the first one in
the order of declaration. Keys that are not asked for are ignored. A record may also be written as
the array of its fields in the order of declaration. `Leeway` says what is let pass beyond that.
-/

namespace Parley

/-- Why a value cannot be read. -/
inductive ReadError where
  /-- A field that has to be there is not. -/
  | missingField (name : String)
  /-- A name that is none of the allowed ones. -/
  | unknownVariant (name : String)
  /-- Any other mismatch. -/
  | invalidData
  /-- A text that is not JSON. -/
  | invalidJson
deriving DecidableEq, Repr

/-- The words for a reading error. -/
def ReadError.message : ReadError → String
  | .missingField name => "missing field `" ++ name ++ "`"
  | .unknownVariant name => "unknown variant `" ++ name ++ "`"
  | .invalidData => "invalid data"
  | .invalidJson => "invalid JSON"

/-- What is let pass where a record is written as an array or a named value as an object. -/
inductive Leeway where
  /-- An array has no more than the fields, and a named value stands as the key of `null`. -/
  | strict
  /-- A named value may also stand as the key of an empty object. -/
  | emptyObject
  /-- An array may go on behind the last field, and a named value stands as the key of an empty
  object or array. -/
  | trailing
deriving DecidableEq, Repr

namespace Leeway

/-- May this stand under the key that is a named value? -/
def isUnit : Leeway → Json → Bool
  | .strict, .null => true
  | .emptyObject, .null => true
  | .emptyObject, .obj [] => true
  | .trailing, .obj [] => true
  | .trailing, .arr [] => true
  | _, _ => false

/-- May an array go on like this? -/
def allowsRest : Leeway → List Json → Bool
  | .trailing, _ => true
  | _, rest => rest.isEmpty

end Leeway

/-- A way to read a value of a type. -/
abbrev Reader (α : Type) : Type := Json → Except ReadError α

namespace Reader

variable {α β : Type}

/-! ### Plain values -/

/-- Any value, as it stands. -/
def json : Reader Json := .ok

/-- A string. -/
def string : Reader String
  | .str s => .ok s
  | _ => .error .invalidData

/-- A truth value. -/
def bool : Reader Bool
  | .bool b => .ok b
  | _ => .error .invalidData

/-- An integer that `f` accepts. -/
def integer (f : Int → Option α) : Reader α
  | .num (.int n) => match f n with
    | some a => .ok a
    | none => .error .invalidData
  | _ => .error .invalidData

/-- A signed 32-bit integer. -/
def int32 : Reader Int32 := integer int32?

/-- A signed 64-bit integer. -/
def int64 : Reader Int64 := integer int64?

/-- An unsigned 64-bit integer. -/
def uint64 : Reader UInt64 :=
  integer fun n => if 0 ≤ n ∧ n < pow2 64 then some n.toNat.toUInt64 else none

/-! ### Compound values -/

/-- Read all items of a list. -/
def each (r : Reader α) : List Json → Except ReadError (List α)
  | [] => .ok []
  | j :: rest => do
    let a ← r j
    let as ← each r rest
    pure (a :: as)

/-- A list. -/
def list (r : Reader α) : Reader (List α)
  | .arr items => each r items
  | _ => .error .invalidData

/-- A pair, written as an array of two. -/
def pair (way : Leeway) (r : Reader α) (s : Reader β) : Reader (α × β)
  | .arr (a :: b :: rest) => do
    let a ← r a
    let b ← s b
    if way.allowsRest rest then pure (a, b) else .error .invalidData
  | _ => .error .invalidData

/-- Read the values of all fields of an object. -/
def eachField (r : Reader α) : List (String × Json) → Except ReadError (List (String × α))
  | [] => .ok []
  | (k, j) :: rest => do
    let a ← r j
    let as ← eachField r rest
    pure ((k, a) :: as)

/-- A dictionary, written as an object. -/
def dict (r : Reader α) : Reader (Dict α)
  | .obj fields => (eachField r fields).map Dict.ofList
  | _ => .error .invalidData

/-- A set of names, written as an array. -/
def names : Reader NameSet := fun j => (list string j).map NameSet.ofNames

/-- A value or `null`. -/
def nullable (r : Reader α) : Reader (Option α)
  | .null => .ok none
  | j => (r j).map some

/-- One of several named values. The name stands alone, or as the only key of an object. -/
def choice (way : Leeway) (table : List (String × α)) : Reader α
  | .str name => match table.lookup name with
    | some a => .ok a
    | none => .error (.unknownVariant name)
  | .obj [(name, value)] => match table.lookup name with
    | some a => if way.isUnit value then .ok a else .error .invalidData
    | none => .error (.unknownVariant name)
  | _ => .error .invalidData

/-- A value of one of two forms; where neither fits it does not matter why. -/
def either (r s : Reader α) : Reader α := fun j =>
  match r j with
  | .ok a => .ok a
  | .error _ => match s j with
    | .ok a => .ok a
    | .error _ => .error .invalidData

end Reader

/-! ### Records -/

/-- What is wrong with a record written as an object. -/
inductive Slip where
  /-- The value under this key cannot be read. -/
  | bad (key : String) (error : ReadError)
  /-- This field is not there. -/
  | missing (name : String)

namespace Slip

/-- Of two slips, the one that is reported: a bad value before a missing field, of two bad values
the one with the lesser key, of two missing fields the former. -/
def first : Slip → Slip → Slip
  | .bad k e, .bad k' e' => if k' < k then .bad k' e' else .bad k e
  | .bad k e, .missing _ => .bad k e
  | .missing _, .bad k e => .bad k e
  | .missing n, .missing _ => .missing n

/-- The reading error that a slip amounts to. -/
def error : Slip → ReadError
  | .bad _ e => e
  | .missing name => .missingField name

end Slip

/-- A way to read a record, from an object or from the array of its fields. -/
structure Fields (α : Type) where
  /-- Read it from the fields of an object. -/
  ofObject : List (String × Json) → Except Slip α
  /-- Read it from the front of an array, and hand back the rest of that. -/
  ofArray : List Json → Except ReadError (α × List Json)

namespace Fields

variable {α β : Type}

/-- The record without fields. -/
def none (a : α) : Fields α where
  ofObject _ := .ok a
  ofArray items := .ok (a, items)

/-- One field, with what it is when it is not there in either form. -/
def field (name : String) (r : Reader α) (absent : Except Slip α)
    (cut : Except ReadError α) : Fields α where
  ofObject fields := match fields.lookup name with
    | some j => (r j).mapError (Slip.bad name)
    | Option.none => absent
  ofArray
    | [] => cut.map (·, [])
    | j :: rest => (r j).map (·, rest)

/-- A field that has to be there. -/
def required (name : String) (r : Reader α) : Fields α :=
  field name r (.error (.missing name)) (.error .invalidData)

/-- A field that may be absent or `null`. In an array its place has to be filled. -/
def optional (name : String) (r : Reader α) : Fields (Option α) :=
  field name (.nullable r) (.ok Option.none) (.error .invalidData)

/-- A field with a default. -/
def orElse (name : String) (r : Reader α) (default : α) : Fields α :=
  field name r (.ok default) (.ok default)

/-- One record after another, the former being applied to the latter. -/
def apply (f : Fields (α → β)) (x : Fields α) : Fields β where
  ofObject fields := match f.ofObject fields, x.ofObject fields with
    | .ok g, .ok a => .ok (g a)
    | .error s, .ok _ => .error s
    | .ok _, .error s => .error s
    | .error s, .error t => .error (s.first t)
  ofArray items := do
    let (g, items) ← f.ofArray items
    let (a, items) ← x.ofArray items
    pure (g a, items)

instance : Applicative Fields where
  pure := none
  seq f x := f.apply (x ())

/-- Read a record that is written as an object. -/
def readObject (f : Fields α) : Reader α
  | .obj fields => (f.ofObject fields).mapError Slip.error
  | _ => .error .invalidData

/-- Read a record from an object or an array. -/
def readWith (way : Leeway) (f : Fields α) : Reader α
  | .arr items => do
    let (a, rest) ← f.ofArray items
    if way.allowsRest rest then pure a else .error .invalidData
  | j => f.readObject j

/-- Read a record from an object or an array that has no more than the fields. -/
def read (f : Fields α) : Reader α := f.readWith .strict

end Fields

end Parley
