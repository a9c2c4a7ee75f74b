import Parley.Failure
import Parley.Number.Basic
import Parley.Text.Basic

/-!
# Durations

A duration is a number of turns, one turn being a second. In writing it is `0` or a sequence of
numbers with units, such as `1h 30m`; blanks do not matter. A number may have a fraction as long
as it comes out exact: in nanoseconds for units up to the minute, in seconds for longer ones.
-/

namespace Parley

/-- A length of time in turns. -/
structure Duration where
  turns : Int64
deriving DecidableEq, Repr

namespace Duration

/-- A unit of time: so many seconds or so many nanoseconds. -/
inductive Span where
  | seconds (n : Nat)
  | nanoseconds (n : Nat)

/-- The unit that a word stands for. -/
def span? (word : String) : Option Span :=
  if word ∈ ["nanos", "nsec", "ns"] then some (.nanoseconds 1)
  else if word ∈ ["usec", "us", "µs"] then some (.nanoseconds 1000)
  else if word ∈ ["millis", "msec", "ms"] then some (.nanoseconds 1000000)
  else if word ∈ ["seconds", "second", "secs", "sec", "s"] then some (.seconds 1)
  else if word ∈ ["minutes", "minute", "min", "mins", "m"] then some (.seconds 60)
  else if word ∈ ["hours", "hour", "hr", "hrs", "h"] then some (.seconds 3600)
  else if word ∈ ["days", "day", "d"] then some (.seconds 86400)
  else if word ∈ ["weeks", "week", "wk", "wks", "w"] then some (.seconds 604800)
  else if word ∈ ["months", "month", "M"] then some (.seconds 2630016)
  else if word ∈ ["years", "year", "yr", "yrs", "y"] then some (.seconds 31557600)
  else none

/-- Why a text writes no duration. -/
inductive Flaw where
  /-- It is not of the form, or a number in it overflows. -/
  | invalid
  /-- It is longer than can be counted in turns. -/
  | outOfRange
  /-- The nanoseconds come to exactly a second, and the seconds have no room for it. -/
  | overflow
deriving DecidableEq, Repr

/-- A number below `2 ^ 64`; larger ones overflow. -/
def word (n : Nat) : Except Flaw Nat := if n < pow2 64 then .ok n else .error .invalid

/-- The number written by digits. -/
def number (digits : List Char) : Except Flaw Nat :=
  match Text.natural? digits with
  | some n => word n
  | none => .error .invalid

/-- Seconds and nanoseconds, the latter less than a second. -/
structure Elapsed where
  seconds : Nat
  nanoseconds : Nat

/-- Add seconds and nanoseconds to what has elapsed. That the nanoseconds come to exactly a second
is noticed only after the seconds were counted. -/
def Elapsed.add (e : Elapsed) (seconds nanoseconds : Nat) : Except Flaw Elapsed := do
  let nanos ← word (e.nanoseconds + nanoseconds)
  if nanos = pow10 9 then
    let total ← word (e.seconds + seconds)
    if total + 1 < pow2 64 then return ⟨total + 1, 0⟩ else .error .overflow
  else
    return ⟨← word (e.seconds + seconds + nanos / pow10 9), nanos % pow10 9⟩

/-- Add `n` units. -/
def Elapsed.addWhole (e : Elapsed) (n : Nat) : Span → Except Flaw Elapsed
  | .seconds k => do e.add (← word (n * k)) 0
  | .nanoseconds k => do e.add 0 (← word (n * k))

/-- `n / d` times `k`, where that is a whole number. -/
def quotient (n d k : Nat) : Except Flaw Nat := do
  let product ← word (n * k)
  if product % d = 0 then return product / d else .error .invalid

/-- Add the fraction `n / d` of a unit. -/
def Elapsed.addFraction (e : Elapsed) (n d : Nat) : Span → Except Flaw Elapsed
  | .nanoseconds k => do if k = 1 then .error .invalid else e.add 0 (← quotient n d k)
  | .seconds k => do
    if k ≤ 60 then e.add 0 (← quotient n d (k * pow10 9)) else e.add (← quotient n d k) 0

/-- Numerator and denominator of the fraction that digits behind a point write. -/
def fraction (digits : List Char) : Except Flaw (Nat × Nat) := do
  return (← number digits, ← word (pow10 digits.length))

/-- Add an amount, given by the characters of its number and its unit. All of the number is read
before anything is added. -/
def Elapsed.addAmount (e : Elapsed) (amount unit : List Char) : Except Flaw Elapsed := do
  let digits := amount.takeWhile (· ≠ '.')
  let n ← number digits
  let part ← match amount.drop digits.length with
    | [] => pure none
    | _ :: digits => (fraction digits).map some
  match span? (.ofList unit), part with
  | none, _ => .error .invalid
  | some unit, none => e.addWhole n unit
  | some unit, some (n', d) => do (← e.addWhole n unit).addFraction n' d unit

/-- Is `c` part of a number (and not of a unit)? -/
def isNumeral (c : Char) : Bool := (Text.digit? c).isSome || c = '.'

/-- Does a number stand in front, beginning with a digit, or nothing at all? -/
def mayFollow : List (List Char) → Bool
  | [] => true
  | number :: _ => number.head? ≠ some '.'

/-- Add amounts, given as alternating runs of numbers and units. A unit counts once it is clear
that it ends there. -/
def addRuns (e : Elapsed) : List (List Char) → Except Flaw Elapsed
  | [] => .ok e
  | number :: unit :: rest => do
    if mayFollow rest then addRuns (← e.addAmount number unit) rest else .error .invalid
  | [_] => .error .invalid

/-- The whole seconds of a text without blanks. -/
def seconds (s : List Char) : Except Flaw Nat :=
  if s = ['0'] then .ok 0
  else if s = [] then .error .invalid
  else (addRuns ⟨0, 0⟩ (s.splitBy fun a b => isNumeral a == isNumeral b)).map (·.seconds)

/-- The turns of a text without blanks. -/
def turnsOf (s : List Char) : Except Flaw Int64 := do
  match int64? (← seconds s) with
  | some turns => return turns
  | none => .error .outOfRange

/-- What it means that a text has a flaw. -/
def Flaw.failure (text : String) : Flaw → Failure
  | .invalid => .content "duration" ("invalid duration '" ++ text ++ "'")
  | .outOfRange => .content "duration" ("duration '" ++ text ++ "' is out of range")
  | .overflow => .fault .durationOverflow

/-- The duration that a text writes. -/
def parse (text : String) : Except Failure Duration :=
  ((turnsOf (Text.squeeze text.toList)).map (⟨·⟩)).mapError (·.failure text)

/-- A duration as it is shown. -/
def shown (d : Duration) : String := toString d.turns.toInt ++ " turns"

end Duration

end Parley
