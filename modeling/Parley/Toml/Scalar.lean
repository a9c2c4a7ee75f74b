import Parley.Json.Parser
import Parley.Number.Basic
import Parley.Toml.Moment

/-!
# Scalars of a TOML document

Strings in their four forms, integers in four bases, floating-point numbers, and dates and times.
The readers take what is left of the text and hand back what they leave.
-/

namespace Parley.Toml

open Text (digit?)

/-! ### Characters -/

/-- Blanks within a line. -/
def isBlank (c : Char) : Bool := c = ' ' || c = '\t'

/-- The text from its first character that is no blank. -/
def skipBlank (s : List Char) : List Char := s.dropWhile isBlank

/-- May a character stand in a comment or, but for the quotes, in a string of one line? -/
def isText (c : Char) : Bool :=
  c = '\t' || (0x20 ≤ c.toNat && c.toNat ≤ 0x7E) || 0x80 ≤ c.toNat

/-- What follows the end of a line. -/
def newline? : List Char → Option (List Char)
  | '\n' :: s => some s
  | '\r' :: '\n' :: s => some s
  | _ => none

/-! ### Strings -/

/-- The number written by the next `n` hexadecimal digits. -/
def hexDigits? : Nat → Nat → List Char → Option (Nat × List Char)
  | 0, acc, s => some (acc, s)
  | _ + 1, _, [] => none
  | n + 1, acc, c :: s => do hexDigits? n (acc * 16 + (← Json.hexValue? c)) s

/-- The character with a number, if there is one. -/
def scalar? (n : Nat) : Option Char :=
  if n < 0xD800 ∨ (0xDFFF < n ∧ n < 0x110000) then some (.ofNat n) else none

/-- The character meant by what follows a backslash. -/
def escape? : List Char → Option (Char × List Char)
  | 'b' :: s => some (.ofNat 8, s)
  | 't' :: s => some ('\t', s)
  | 'n' :: s => some ('\n', s)
  | 'f' :: s => some (.ofNat 12, s)
  | 'r' :: s => some ('\r', s)
  | '"' :: s => some ('"', s)
  | '\\' :: s => some ('\\', s)
  | 'u' :: s => do
    let (n, s) ← hexDigits? 4 0 s
    pure (← scalar? n, s)
  | 'U' :: s => do
    let (n, s) ← hexDigits? 8 0 s
    pure (← scalar? n, s)
  | _ => none

/-- The rest of a string in double quotes. -/
def basicBody : Nat → List Char → List Char → Option (String × List Char)
  | 0, _, _ => none
  | _ + 1, _, [] => none
  | fuel + 1, acc, c :: s =>
    if c = '"' then some (.ofList acc.reverse, s)
    else if c = '\\' then do
      let (c, s) ← escape? s
      basicBody fuel (c :: acc) s
    else if isText c then basicBody fuel (c :: acc) s
    else none

/-- The rest of a string in single quotes. -/
def literalBody (acc : List Char) : List Char → Option (String × List Char)
  | [] => none
  | c :: s =>
    if c = '\x27' then some (.ofList acc.reverse, s)
    else if isText c then literalBody (c :: acc) s
    else none

/-- The end of a string of several lines: three quotes, before which one or two more count as
text. -/
def closing? (quote : Char) (acc : List Char) (s : List Char) : Option (String × List Char) :=
  let quotes := (s.takeWhile (· = quote)).length
  if 3 ≤ quotes then
    let extra := min (quotes - 3) 2
    some (.ofList (List.replicate extra quote ++ acc).reverse, s.drop (3 + extra))
  else none

/-- The text after a backslash at the end of a line: the next character that is neither blank nor
the end of a line. -/
def skipLines : Nat → List Char → List Char
  | 0, s => s
  | fuel + 1, s => match newline? (skipBlank s) with
    | some rest => skipLines fuel rest
    | none => skipBlank s

/-- The rest of a string in three double quotes. -/
def basicLines : Nat → List Char → List Char → Option (String × List Char)
  | 0, _, _ => none
  | _ + 1, _, [] => none
  | fuel + 1, acc, c :: s =>
    match closing? '"' acc (c :: s) with
    | some result => some result
    | none =>
      if c = '\\' then match newline? (skipBlank s) with
        | some rest => basicLines fuel acc (skipLines fuel rest)
        | none => do
          let (c, s) ← escape? s
          basicLines fuel (c :: acc) s
      else match newline? (c :: s) with
        | some rest => basicLines fuel ('\n' :: acc) rest
        | none => if isText c then basicLines fuel (c :: acc) s else none

/-- The rest of a string in three single quotes. -/
def literalLines : Nat → List Char → List Char → Option (String × List Char)
  | 0, _, _ => none
  | _ + 1, _, [] => none
  | fuel + 1, acc, c :: s =>
    match closing? '\x27' acc (c :: s) with
    | some result => some result
    | none => match newline? (c :: s) with
      | some rest => literalLines fuel ('\n' :: acc) rest
      | none => if isText c then literalLines fuel (c :: acc) s else none

/-- The text without the end of a line at its front. -/
def dropNewline (s : List Char) : List Char := (newline? s).getD s

/-- A string in any of the four forms. -/
def string? : List Char → Option (String × List Char)
  | '"' :: '"' :: '"' :: s => basicLines (s.length + 1) [] (dropNewline s)
  | '"' :: s => basicBody (s.length + 1) [] s
  | '\x27' :: '\x27' :: '\x27' :: s => literalLines (s.length + 1) [] (dropNewline s)
  | '\x27' :: s => literalBody [] s
  | _ => none

/-! ### Runs of digits -/

/-- Digits of a base, possibly with single low lines between them; `value` holds the value so far
and `count` the number of digits. -/
def digitsOf (digit : Char → Option Nat) (base : Nat) (value count : Nat) :
    List Char → Nat × Nat × List Char
  | [] => (value, count, [])
  | '_' :: c :: s => match digit c with
    | some d =>
      if count = 0 then (value, count, '_' :: c :: s)
      else digitsOf digit base (value * base + d) (count + 1) s
    | none => (value, count, '_' :: c :: s)
  | c :: s => match digit c with
    | some d => digitsOf digit base (value * base + d) (count + 1) s
    | none => (value, count, c :: s)

/-- At least one digit of a base. -/
def digits? (digit : Char → Option Nat) (base : Nat) (s : List Char) :
    Option (Nat × Nat × List Char) :=
  match digitsOf digit base 0 0 s with
  | (_, 0, _) => none
  | result => some result

/-- The value of a digit below `base`. -/
def below (base : Nat) (c : Char) : Option Nat :=
  (digit? c).filter (· < base)

/-- Decimal digits without needless zeros in front. -/
def plain? (s : List Char) : Option (Nat × Nat × List Char) :=
  match s with
  | '0' :: s => some (0, 1, s)
  | _ => digits? digit? 10 s

/-- A sign, if there is one. -/
def sign : List Char → Bool × List Char
  | '-' :: s => (true, s)
  | '+' :: s => (false, s)
  | s => (false, s)

/-! ### Numbers -/

/-- An integer of 64 bits. -/
def fits? (n : Int) (s : List Char) : Option (Json × List Char) :=
  (int64? n).map fun _ => (.int n, s)

/-- An integer. -/
def integer? : List Char → Option (Json × List Char)
  | '0' :: 'x' :: s => do
    let (n, _, s) ← digits? Json.hexValue? 16 s
    fits? n s
  | '0' :: 'o' :: s => do
    let (n, _, s) ← digits? (below 8) 8 s
    fits? n s
  | '0' :: 'b' :: s => do
    let (n, _, s) ← digits? (below 2) 2 s
    fits? n s
  | s => do
    let (negative, s) := sign s
    let (n, _, s) ← plain? s
    fits? (if negative then -(n : Int) else n) s

/-- An exponent. -/
def exponent? : List Char → Option (Int × List Char)
  | c :: s =>
    if c = 'e' ∨ c = 'E' then do
      let (negative, s) := sign s
      let (n, _, s) ← digits? digit? 10 s
      pure (if negative then -(n : Int) else n, s)
    else none
  | [] => none

/-- The floating-point number of decimal digits and an exponent, infinite if it is too large. -/
def scale (digits : Nat) (exponent : Int) : Float :=
  let places := (toString digits).length
  if digits = 0 ∨ exponent < -400 - (places : Int) then 0
  else if 400 < exponent then 1 / 0
  else .ofScientific digits (exponent < 0) exponent.natAbs

/-- The number with a sign, decimal digits and an exponent. One that is too large is refused,
unless it is negative. -/
def signed? (negative : Bool) (digits : Nat) (exponent : Int) : Option Json :=
  let x := scale digits exponent
  if negative then some (.num (.float ⟨(-x).toBits⟩))
  else if x.isInf then none
  else some (.num (.float ⟨x.toBits⟩))

/-- A number with a fraction or an exponent, or one of the words for infinity and no number. -/
def float? (s : List Char) : Option (Json × List Char) := do
  let (negative, s) := sign s
  match s with
  | 'i' :: 'n' :: 'f' :: s =>
    pure (.num (.float ⟨if negative then 0xFFF0000000000000 else 0x7FF0000000000000⟩), s)
  | 'n' :: 'a' :: 'n' :: s => pure (.num (.float ⟨0x7FF8000000000000⟩), s)
  | _ =>
    let (whole, _, s) ← plain? s
    match s with
    | '.' :: s => do
      let (fraction, places, s) ← digits? digit? 10 s
      let digits := whole * pow10 places + fraction
      match exponent? s with
      | some (e, s) => pure (← signed? negative digits (e - places), s)
      | none => pure (← signed? negative digits (-places), s)
    | s => do
      let (e, s) ← exponent? s
      pure (← signed? negative whole e, s)

/-! ### Dates and times -/

/-- The key under which the text of a date or time is kept. -/
def momentKey : String := "$__toml_private_datetime"

/-- A date or time: an object that keeps its text. -/
def moment? (s : List Char) : Option (Json × List Char) :=
  (Moment.read? s).map fun (m, rest) => (.obj [(momentKey, .str m.text)], rest)

/-! ### All of them -/

/-- A scalar. -/
def scalarValue? (s : List Char) : Option (Json × List Char) :=
  match s with
  | [] => none
  | c :: _ =>
    if c = '"' ∨ c = '\x27' then (string? s).map fun (text, rest) => (.str text, rest)
    else if c = 't' then (Json.afterWord? ['t', 'r', 'u', 'e'] s).map (.bool true, ·)
    else if c = 'f' then (Json.afterWord? ['f', 'a', 'l', 's', 'e'] s).map (.bool false, ·)
    else ((moment? s).or (float? s)).or (integer? s)

end Parley.Toml
