import Parley.Text.Basic

/-!
# Dates and times

A moment is a date of the Gregorian calendar, a time of day to the nanosecond, or both, the latter
perhaps with a difference from world time. `Moment.read?` reads the forms that a TOML document may
write, `Moment.text` writes the one form that stands for all of them. Readers take what is left of a
text and hand back what they leave.
-/

namespace Parley.Toml

open Text (digit?)

/-- The number written by the next `n` digits, after those that made `acc`. -/
def fixed? : Nat → Nat → List Char → Option (Nat × List Char)
  | 0, acc, s => some (acc, s)
  | _ + 1, _, [] => none
  | n + 1, acc, c :: s => do fixed? n (acc * 10 + (← digit? c)) s

/-- What follows a character. -/
def after? (c : Char) : List Char → Option (List Char)
  | c' :: s => if c' = c then some s else none
  | [] => none

/-- A day of the calendar. -/
structure Date where
  year : Nat
  month : Nat
  day : Nat
deriving DecidableEq, Repr

/-- A time of day; the last second of a minute may be its sixty-first. -/
structure DayTime where
  hour : Nat
  minute : Nat
  second : Nat
  nanosecond : Nat
deriving DecidableEq, Repr

/-- A difference from world time. -/
inductive Zone where
  /-- World time itself. -/
  | world
  | ahead (hours minutes : Nat)
  | behind (hours minutes : Nat)
deriving DecidableEq, Repr

/-- A date, a time, or both. -/
structure Moment where
  date : Option Date := none
  time : Option DayTime := none
  zone : Option Zone := none
deriving DecidableEq, Repr

namespace Moment

/-- The number of days of a month. -/
def daysIn (year month : Nat) : Nat :=
  if month = 2 then
    if (year % 4 = 0 ∧ year % 100 ≠ 0) ∨ year % 400 = 0 then 29 else 28
  else if month ∈ [4, 6, 9, 11] then 30 else 31

/-- A date that the calendar has. -/
def date? (s : List Char) : Option (Date × List Char) := do
  let (year, s) ← fixed? 4 0 s
  let (month, s) ← fixed? 2 0 (← after? '-' s)
  let (day, s) ← fixed? 2 0 (← after? '-' s)
  if 1 ≤ month ∧ month ≤ 12 ∧ 1 ≤ day ∧ day ≤ daysIn year month then some (⟨year, month, day⟩, s)
  else none

/-- Hours and minutes. -/
def clock? (s : List Char) : Option (Nat × Nat × List Char) := do
  let (hour, s) ← fixed? 2 0 s
  let (minute, s) ← fixed? 2 0 (← after? ':' s)
  if hour ≤ 23 ∧ minute ≤ 59 then some (hour, minute, s) else none

/-- The nanoseconds that the digits of a fraction of a second write; those behind the ninth do not
count. -/
def nanoseconds? (digits : List Char) : Option Nat :=
  Text.natural? ((digits ++ List.replicate 9 '0').take 9)

/-- A time of day. -/
def time? (s : List Char) : Option (DayTime × List Char) := do
  let (hour, minute, s) ← clock? s
  let (second, s) ← fixed? 2 0 (← after? ':' s)
  if 60 < second then none
  else match s with
    | '.' :: s =>
      let fraction := s.takeWhile fun c => (digit? c).isSome
      if fraction = [] then none
      else some (⟨hour, minute, second, ← nanoseconds? fraction⟩, s.drop fraction.length)
    | s => some (⟨hour, minute, second, 0⟩, s)

/-- A difference from world time, if one is written. -/
def zone? (s : List Char) : Option (Option Zone × List Char) :=
  match s with
  | 'Z' :: s => some (some .world, s)
  | 'z' :: s => some (some .world, s)
  | '+' :: s => (clock? s).map fun (hours, minutes, s) => (some (.ahead hours minutes), s)
  | '-' :: s => (clock? s).map fun (hours, minutes, s) => (some (.behind hours minutes), s)
  | s => some (none, s)

/-- A date with the time of day that follows it. -/
def dated? (date : Date) (s : List Char) : Option (Moment × List Char) := do
  let (time, s) ← time? s
  let (zone, s) ← zone? s
  some ({ date, time, zone }, s)

/-- A date, a time, or both with a `T` or a blank between them. -/
def read? (s : List Char) : Option (Moment × List Char) :=
  match date? s with
  | none => (time? s).map fun (time, s) => ({ time }, s)
  | some (date, s) => match s with
    | 'T' :: s => dated? date s
    | 't' :: s => dated? date s
    | ' ' :: rest => if (time? rest).isSome then dated? date rest else some ({ date }, s)
    | s => some ({ date }, s)

/-- A number in `width` digits at least. -/
def padded (width n : Nat) : String := String.ofList ((toString n).toList.leftpad width '0')

/-- A fraction of a second with a point in front; nothing for none. -/
def fractionText (nanosecond : Nat) : String :=
  if nanosecond = 0 then ""
  else
    let digits := (padded 9 nanosecond).toList.reverse.dropWhile (· = '0')
    "." ++ String.ofList digits.reverse

/-- A date in writing. -/
def dateText (d : Date) : String :=
  padded 4 d.year ++ "-" ++ padded 2 d.month ++ "-" ++ padded 2 d.day

/-- A time of day in writing. -/
def timeText (t : DayTime) : String :=
  padded 2 t.hour ++ ":" ++ padded 2 t.minute ++ ":" ++ padded 2 t.second
    ++ fractionText t.nanosecond

/-- A difference from world time in writing; none at all is counted as ahead. -/
def zoneText : Zone → String
  | .world => "Z"
  | .ahead hours minutes => "+" ++ padded 2 hours ++ ":" ++ padded 2 minutes
  | .behind hours minutes =>
    (if hours = 0 ∧ minutes = 0 then "+" else "-") ++ padded 2 hours ++ ":" ++ padded 2 minutes

/-- A moment in writing. -/
def text (m : Moment) : String :=
  let date := (m.date.map dateText).getD ""
  let time := (m.time.map timeText).getD ""
  let zone := (m.zone.map zoneText).getD ""
  date ++ (if m.date.isSome ∧ m.time.isSome then "T" else "") ++ time ++ zone

end Moment

end Parley.Toml
