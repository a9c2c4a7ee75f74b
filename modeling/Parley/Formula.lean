import Parley.Conversation.Scene

/-!
# Formulas

Arithmetic on integer references. Every step is the exact operation brought into the 64-bit range,
except that dividing the least integer by minus one wraps around. Division rounds toward zero and
the remainder has the sign of the dividend; both refuse a zero divisor.
-/

namespace Parley

/-- An operator that takes any positive number of arguments. -/
inductive FoldOp where
  | add
  | mul
  | min
  | max
deriving DecidableEq, Repr

/-- An operator that takes two arguments. -/
inductive BinaryOp where
  | sub
  | div
  | rem
deriving DecidableEq, Repr

/-- An operator that takes one argument. -/
inductive UnaryOp where
  | abs
  | neg
deriving DecidableEq, Repr

/-- An arithmetic expression. -/
inductive Formula where
  | ref (value : IntRef)
  | fold (op : FoldOp) (first : Formula) (rest : List Formula)
  | binary (op : BinaryOp) (left right : Formula)
  | unary (op : UnaryOp) (arg : Formula)

/-- One step of an operator that takes any number of arguments. -/
def FoldOp.step : FoldOp → Int64 → Int64 → Int64
  | .add => add64
  | .mul => mul64
  | .min => Min.min
  | .max => Max.max

/-- The value of an operator that takes two arguments. -/
def BinaryOp.apply : BinaryOp → Int64 → Int64 → Except Failure Int64
  | .sub, a, b => .ok (sub64 a b)
  | .div, a, b => if b = 0 then .error .divisionByZero else .ok (a / b)
  | .rem, a, b => if b = 0 then .error .divisionByZero else .ok (a % b)

/-- The value of an operator that takes one argument. -/
def UnaryOp.apply : UnaryOp → Int64 → Int64
  | .abs => abs64
  | .neg => neg64

section

variable {α β : Type} [Actor α] [Actor β] (s : Scene α β)

mutual

/-- The value of a formula; the arguments are evaluated from left to right, all of them before
the operator. -/
def Formula.evaluate : Formula → Draw Int64
  | .ref value => value.evaluate s
  | .fold op first rest => do
    let first ← first.evaluate
    let rest ← Formula.evaluateAll rest
    return rest.foldl op.step first
  | .binary op left right => do
    let left ← left.evaluate
    let right ← right.evaluate
    Draw.ofExcept (op.apply left right)
  | .unary op arg => do
    let arg ← arg.evaluate
    return op.apply arg

/-- The values of formulas, from left to right. -/
def Formula.evaluateAll : List Formula → Draw (List Int64)
  | [] => return []
  | f :: rest => do
    let value ← f.evaluate
    let values ← Formula.evaluateAll rest
    return value :: values

end

end

namespace Formula

/-- An operator of any kind. -/
inductive AnyOp where
  | fold (op : FoldOp)
  | binary (op : BinaryOp)
  | unary (op : UnaryOp)

/-- All operators by symbol. -/
def AnyOp.table : List (String × AnyOp) :=
  [("+", .fold .add), ("-", .binary .sub), ("*", .fold .mul), ("/", .binary .div),
    ("%", .binary .rem), ("min", .fold .min), ("max", .fold .max), ("abs", .unary .abs),
    ("neg", .unary .neg)]

/-- The word for an operator in error messages. -/
def AnyOp.word : AnyOp → String
  | .fold .add => "Add"
  | .fold .mul => "Mul"
  | .fold .min => "Min"
  | .fold .max => "Max"
  | .binary .sub => "Sub"
  | .binary .div => "Div"
  | .binary .rem => "Rem"
  | .unary .abs => "Abs"
  | .unary .neg => "Neg"

/-- The least number of arguments of an operator. -/
def AnyOp.arity : AnyOp → Nat
  | .fold _ => 1
  | .binary _ => 2
  | .unary _ => 1

/-- The operator applied to arguments, if there are as many as it takes. -/
def AnyOp.apply? : AnyOp → List Formula → Option Formula
  | .fold op, first :: rest => some (.fold op first rest)
  | .binary op, [left, right] => some (.binary op left right)
  | .unary op, [arg] => some (.unary op arg)
  | _, _ => none

/-- Does an operator take this many arguments? -/
def AnyOp.takes : AnyOp → Nat → Bool
  | .fold _, n => 1 ≤ n
  | .binary _, n => n = 2
  | .unary _, n => n = 1

/-- Why an operator is refused for its number of arguments. -/
def arityFailure (op : AnyOp) (given : Nat) : Failure :=
  .content "expression"
    (op.word ++ " takes " ++ toString op.arity ++ " argument(s), got " ++ toString given)

/-- An operator and its arguments as they are written. -/
def fields : Fields (AnyOp × List Json) :=
  Prod.mk <$> .required "op" (.choice .strict AnyOp.table) <*> .required "args" (.list .json)

/-- The formula that content writes, nested at most `depth` deep. -/
def readNested : Nat → Json → Except Failure Formula
  | 0, _ => .error (ReadError.invalidData.inContent "expression")
  | depth + 1, j =>
    if (j.field? "op").isSome then do
      let (op, args) ← (fields.read j).mapError (·.inContent "expression")
      if op.takes args.length then
        match op.apply? (← args.mapM (readNested depth)) with
        | some f => pure f
        | none => .error (arityFailure op args.length)
      else .error (arityFailure op args.length)
    else do
      let ref ← (IntRef.reader j).mapError (·.inContent "expression")
      return .ref (← ref)

/-- The formula that content writes. -/
def ofJson (j : Json) : Except Failure Formula := readNested j.depth j

end Formula

end Parley
