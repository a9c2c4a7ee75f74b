import Parley.Duration
import Parley.Variable

/-!
# References

Wherever content gives a value it may name a variable instead, with a default for when nothing is
stored; a number or a duration may also be a range, from which a value is drawn each time.

A reader of references yields what it read together with the outcome of resolving it, because a
record is refused for its form before any of its references is looked at.
-/

namespace Parley

/-- A value as written, or the variable that holds it and a default. -/
inductive Operand (α : Type) where
  | literal (value : α)
  | stored (var : Variable) (default : α)
deriving DecidableEq, Repr

/-- A single value, or a range from which one is drawn. -/
inductive Quantity (α : Type) where
  | single (part : Operand α)
  | range (min max : Operand α)
deriving DecidableEq, Repr

/-- A reference to a text. -/
abbrev TextRef : Type := Operand String

/-- A reference to an integer. -/
abbrev IntRef : Type := Quantity Int64

/-- A reference to a duration. -/
abbrev DurationRef : Type := Quantity Duration

namespace Operand

variable {α : Type}

/-- A variable with its default. -/
def storedFields (r : Reader (Except Failure α)) : Fields (Except Failure (Operand α)) :=
  (fun name scope type context default => do
      let var ← Variable.resolve name scope type context
      match default with
      | some default => return .stored var (← default)
      | none => .error (.missingDefault name))
    <$> .required "var" .string
    <*> .orElse "scope" (.choice .strict Scope.table) .u
    <*> .optional "var_type" .string
    <*> .optional "context" .string
    <*> .optional "default" r

/-- A value or a variable. -/
def reader (r : Reader (Except Failure α)) : Reader (Except Failure (Operand α)) :=
  .either (fun j => (r j).map (·.map .literal)) (storedFields r).read

end Operand

namespace Quantity

variable {α : Type}

/-- The two ends of a range. -/
def rangeFields (r : Reader (Except Failure α)) : Fields (Except Failure (Quantity α)) :=
  (fun min max => do return .range (← min) (← max))
    <$> .required "min" (Operand.reader r)
    <*> .required "max" (Operand.reader r)

/-- A single value or a range. -/
def reader (r : Reader (Except Failure α)) : Reader (Except Failure (Quantity α)) :=
  .either (fun j => (Operand.reader r j).map (·.map .single)) (rangeFields r).readObject

end Quantity

/-- A text or a variable. -/
def TextRef.reader : Reader (Except Failure TextRef) :=
  Operand.reader fun j => (Reader.string j).map .ok

/-- An integer, a variable or a range. -/
def IntRef.reader : Reader (Except Failure IntRef) :=
  Quantity.reader fun j => (Reader.int64 j).map .ok

/-- A duration in turns or in words. -/
def Duration.reader : Reader (Except Failure Duration) :=
  .either (fun j => (Reader.int64 j).map fun n => .ok ⟨n⟩)
    fun j => (Reader.string j).map Duration.parse

/-- A duration, a variable or a range. -/
def DurationRef.reader : Reader (Except Failure DurationRef) :=
  Quantity.reader Duration.reader

/-- A reference to a fixed integer. -/
def IntRef.literal (n : Int64) : IntRef := .single (.literal n)

/-- A reference to a fixed duration. -/
def DurationRef.literal (d : Duration) : DurationRef := .single (.literal d)

namespace Operand

/-- The value as written, or the default. -/
def preview {α : Type} : Operand α → α
  | .literal value => value
  | .stored _ default => default

/-- Is it a variable of the other speaker? -/
def isNpc {α : Type} : Operand α → Bool
  | .literal _ => false
  | .stored var _ => var.scope = .npc

end Operand

/-- The value as written or the default; of a range, the lesser of the two ends. -/
def IntRef.preview : IntRef → Int64
  | .single part => part.preview
  | .range lo hi => min lo.preview hi.preview

/-- Does a reference name a variable of the other speaker? -/
def IntRef.isNpc : IntRef → Bool
  | .single part => part.isNpc
  | .range lo hi => lo.isNpc || hi.isNpc

end Parley
