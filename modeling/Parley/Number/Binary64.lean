import Parley.Number.Basic

/-!
# Binary floating-point numbers in writing

A number with a fraction or an exponent is kept as the bits of a 64-bit binary floating-point
number. It is shown with the fewest digits that read back as the same number; of two such the
nearer one is taken. The search runs in exact integers.
-/

namespace Parley

/-- The bits of a 64-bit binary floating-point number. -/
structure Binary64 where
  bits : UInt64
deriving DecidableEq, Repr

namespace Binary64

/-- The number nearest to `10 ^ n`. -/
def powerOfTen (n : Nat) : Float := .ofScientific 1 false n

/-- `x` divided by `10 ^ n`, in steps of at most `10 ^ 308`. -/
def divideByPower (x : Float) (n : Nat) : Float :=
  if n ≤ 308 then x / powerOfTen n
  else (List.range ((n - 1) / 308)).foldl (fun y _ => y / powerOfTen 308) x
    / powerOfTen (n - 308 * ((n - 1) / 308))

/-- The number read from decimal digits and an exponent: the digits are rounded first, then scaled
by powers of ten. Nothing where the result is too large. -/
def ofDecimal? (negative : Bool) (digits : UInt64) (exponent : Int) : Option Binary64 :=
  let x := digits.toFloat
  let scaled : Option Float :=
    if digits = 0 then some x
    else if exponent < 0 then
      some (if exponent < -1000 then 0 else divideByPower x exponent.natAbs)
    else if exponent ≤ 308 then
      let y := x * powerOfTen exponent.toNat
      if y.isInf then none else some y
    else none
  scaled.map fun y => ⟨(if negative then -y else y).toBits⟩

/-- Is the number negative (or the negative zero)? -/
def isNegative (x : Binary64) : Bool := x.bits.toNat / pow2 63 = 1

/-- The integer `m` and the exponent `q` such that the magnitude of a finite number is
`m * 2 ^ q`. -/
def parts (x : Binary64) : Nat × Int :=
  let e : Nat := x.bits.toNat / pow2 52 % pow2 11
  let f : Nat := x.bits.toNat % pow2 52
  if e = 0 then (f, -1074) else (pow2 52 + f, (e : Int) - 1075)

/-- Of the multiples of `10 ^ k` next to the magnitude, the nearer one that reads back as the same
number, as a factor of `10 ^ k`. -/
def onGrid? (x : Binary64) (k : Int) : Option Nat :=
  let (m, q) := x.parts
  -- Quarters of the unit `2 ^ q` keep the ends of the rounding interval whole.
  let below := if m = pow2 52 ∧ q ≠ -1074 then 4 * m - 1 else 4 * m - 2
  let scale := q - 2
  let unit := pow10 k.toNat * pow2 (-scale).toNat
  let point (n : Nat) := n * pow2 scale.toNat * pow10 (-k).toNat
  let readsBack (c : Nat) : Bool :=
    if m % 2 = 0 then point below ≤ c * unit ∧ c * unit ≤ point (4 * m + 2)
    else point below < c * unit ∧ c * unit < point (4 * m + 2)
  let low := point (4 * m) / unit
  match readsBack low, readsBack (low + 1) with
  | false, false => none
  | true, false => some low
  | false, true => some (low + 1)
  | true, true =>
    let rest := point (4 * m) - low * unit
    if 2 * rest < unit ∨ (2 * rest = unit ∧ low % 2 = 0) then some low else some (low + 1)

/-- The factor and the exponent of the coarsest decimal grid, from `10 ^ k` downwards, that has a
point reading back as the number. -/
def shortestFrom (x : Binary64) : Nat → Int → Nat × Int
  | 0, k => (0, k)
  | fuel + 1, k => match x.onGrid? k with
    | some c => if c = 0 then shortestFrom x fuel (k - 1) else (c, k)
    | none => shortestFrom x fuel (k - 1)

/-- An exponent in writing, always with its sign. -/
def exponentText (e : Int) : String := (if 0 ≤ e then "e+" else "e") ++ toString e

/-- The number as text: positional from `10 ^ -5` up to sixteen places before the point and with
at least one digit on each side of it, else with an exponent. -/
def toText (x : Binary64) : String :=
  let sign := if x.isNegative then "-" else ""
  if x.parts.1 = 0 then sign ++ "0.0" else
  let (c, k) := x.shortestFrom 640 309
  let digits := toString c
  let length := digits.length
  let place := (length : Int) + k
  let zeros (n : Int) := String.ofList (List.replicate n.toNat '0')
  let cut (n : Int) := (String.ofList (digits.toList.take n.toNat),
    String.ofList (digits.toList.drop n.toNat))
  sign ++
    if 0 ≤ k ∧ place ≤ 16 then digits ++ zeros k ++ ".0"
    else if 0 < place ∧ place ≤ 16 then (cut place).1 ++ "." ++ (cut place).2
    else if -5 < place ∧ place ≤ 0 then "0." ++ zeros (-place) ++ digits
    else if length = 1 then digits ++ exponentText (place - 1)
    else (cut 1).1 ++ "." ++ (cut 1).2 ++ exponentText (place - 1)

end Binary64

end Parley
