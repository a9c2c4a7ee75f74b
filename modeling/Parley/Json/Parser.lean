import Parley.Json.Basic
import Parley.Number.Basic
import Parley.Text.Basic

/-!
# Reading JSON text

Reads the JSON grammar: no trailing commas, no comments, no characters after the value. Arrays
and objects may nest only to a given depth. An integer that fits neither 64 signed nor 64
unsigned bits is read as a floating-point number, and so is the negative zero.

The readers take what is left of the text and hand back what they leave. Their first argument
bounds the number of steps; `Json.parse` makes it large enough for every text.
-/

namespace Parley

namespace Json

open Text (digit?)

/-! ### Blanks and words -/

/-- The four characters that may stand between tokens. -/
def isSpace (c : Char) : Bool := c = ' ' || c = '\n' || c = '\r' || c = '\t'

/-- The text from its first character that is no blank. -/
def skipSpace (s : List Char) : List Char := s.dropWhile isSpace

/-- What follows `word` at the front of the text. -/
def afterWord? : (word : List Char) → List Char → Option (List Char)
  | [], s => some s
  | _ :: _, [] => none
  | w :: ws, c :: s => if w = c then afterWord? ws s else none

/-! ### Strings -/

/-- The value of a hexadecimal digit in either case. -/
def hexValue? (c : Char) : Option Nat :=
  if '0' ≤ c ∧ c ≤ '9' then some (c.toNat - '0'.toNat)
  else if 'a' ≤ c ∧ c ≤ 'f' then some (c.toNat - 'a'.toNat + 10)
  else if 'A' ≤ c ∧ c ≤ 'F' then some (c.toNat - 'A'.toNat + 10)
  else none

/-- The number written by the next four hexadecimal digits. -/
def hex4? : List Char → Option (Nat × List Char)
  | a :: b :: c :: d :: s => do
    let a ← hexValue? a
    let b ← hexValue? b
    let c ← hexValue? c
    let d ← hexValue? d
    pure (((a * 16 + b) * 16 + c) * 16 + d, s)
  | _ => none

/-- The character meant by the digits after `\u`; the two halves of a surrogate pair stand in
succession, and neither may stand alone. -/
def unicodeEscape? (s : List Char) : Option (Char × List Char) := do
  let (n, s) ← hex4? s
  if 0xDC00 ≤ n ∧ n ≤ 0xDFFF then none
  else if 0xD800 ≤ n ∧ n ≤ 0xDBFF then
    match s with
    | '\\' :: 'u' :: s => do
      let (m, s) ← hex4? s
      if 0xDC00 ≤ m ∧ m ≤ 0xDFFF then
        pure (Char.ofNat (0x10000 + (n - 0xD800) * 0x400 + (m - 0xDC00)), s)
      else none
    | _ => none
  else pure (Char.ofNat n, s)

/-- The character meant by what follows a backslash. -/
def escape? : List Char → Option (Char × List Char)
  | '"' :: s => some ('"', s)
  | '\\' :: s => some ('\\', s)
  | '/' :: s => some ('/', s)
  | 'b' :: s => some (Char.ofNat 8, s)
  | 'f' :: s => some (Char.ofNat 12, s)
  | 'n' :: s => some ('\n', s)
  | 'r' :: s => some ('\r', s)
  | 't' :: s => some ('\t', s)
  | 'u' :: s => unicodeEscape? s
  | _ => none

/-- The rest of a string after its opening quote; `acc` holds its characters so far, the last
one first. -/
def stringBody : Nat → List Char → List Char → Option (String × List Char)
  | 0, _, _ => none
  | _ + 1, _, [] => none
  | fuel + 1, acc, c :: s =>
    if c = '"' then some (.ofList acc.reverse, s)
    else if c = '\\' then do
      let (c, s) ← escape? s
      stringBody fuel (c :: acc) s
    else if c.toNat < 32 then none
    else stringBody fuel (c :: acc) s

/-! ### Numbers -/

/-- The greatest number of digits' worth that is kept exactly. -/
def maxDigits : Nat := pow2 64 - 1

/-- Digits read so far: their value, how many places of it were dropped, and the rest of the text.
A digit that would take the value past 64 bits is dropped, and so are those after it. -/
def digitRun (acc : Nat) (dropped : Nat) : List Char → Nat × Nat × List Char
  | [] => (acc, dropped, [])
  | c :: s => match digit? c with
    | none => (acc, dropped, c :: s)
    | some d =>
      if dropped = 0 ∧ acc * 10 + d ≤ maxDigits then digitRun (acc * 10 + d) 0 s
      else digitRun acc (dropped + 1) s

/-- Digits after the point: as `digitRun`, counting the places that were kept. -/
def fractionRun (acc : Nat) (places : Nat) (full : Bool) : List Char → Nat × Nat × List Char
  | [] => (acc, places, [])
  | c :: s => match digit? c with
    | none => (acc, places, c :: s)
    | some d =>
      if full ∨ acc * 10 + d > maxDigits then fractionRun acc places true s
      else fractionRun (acc * 10 + d) (places + 1) false s

/-- The floating-point number with the given digits, when nothing but an exponent can follow. -/
def scaled? (negative : Bool) (digits : Nat) (exponent : Int) (s : List Char) :
    Option (Number × List Char) := do
  let done (exponent : Int) (s : List Char) : Option (Number × List Char) := do
    let x ← Binary64.ofDecimal? negative digits.toUInt64 exponent
    pure (.float x, s)
  match s with
  | c :: rest =>
    if c = 'e' ∨ c = 'E' then
      let (sign, rest) : Int × List Char := match rest with
        | '-' :: r => (-1, r)
        | '+' :: r => (1, r)
        | r => (1, r)
      match rest with
      | c :: _ =>
        if (digit? c).isNone then none
        else
          let (shown, dropped, rest) := digitRun 0 0 rest
          if dropped ≠ 0 ∨ shown > pow2 31 - 1 then
            if digits ≠ 0 ∧ sign = 1 then none
            else pure (.float ⟨if negative then 0x8000000000000000 else 0⟩, rest)
          else done (exponent + sign * shown) rest
      | [] => none
    else done exponent s
  | [] => done exponent s

/-- A number after its sign. -/
def magnitude? (negative : Bool) (s : List Char) : Option (Number × List Char) := do
  let (digits, dropped, rest) ← match s with
    | '0' :: rest => match rest with
      | c :: _ => if (digit? c).isSome then none else some (0, 0, rest)
      | [] => some (0, 0, rest)
    | c :: _ => if (digit? c).isSome then some (digitRun 0 0 s) else none
    | [] => none
  match rest with
  | '.' :: fraction =>
    match fraction with
    | c :: _ =>
      if (digit? c).isNone then none
      else
        let (all, places, rest) := fractionRun digits 0 false fraction
        scaled? negative all (dropped - places) rest
    | [] => none
  | c :: _ =>
    if c = 'e' ∨ c = 'E' ∨ dropped ≠ 0 then scaled? negative digits dropped rest
    else whole digits rest
  | [] => if dropped ≠ 0 then scaled? negative digits dropped rest else whole digits rest
where
  /-- An integer, as long as it fits 64 bits. -/
  whole (digits : Nat) (rest : List Char) : Option (Number × List Char) :=
    if negative then
      if digits = 0 ∨ digits > pow2 63 then scaled? true digits 0 rest
      else some (.int (-(digits : Int)), rest)
    else some (.int digits, rest)

/-- A number. -/
def number? : List Char → Option (Number × List Char)
  | '-' :: s => magnitude? true s
  | s => magnitude? false s

/-! ### Values -/

mutual

/-- The value at the front of the text, in which arrays and objects nest at most `depth` deep. -/
def value? : Nat → Nat → List Char → Option (Json × List Char)
  | 0, _, _ => none
  | fuel + 1, depth, s =>
    match skipSpace s with
    | [] => none
    | c :: rest =>
      if c = '"' then do
        let (text, rest) ← stringBody (rest.length + 1) [] rest
        pure (.str text, rest)
      else if c = '[' then
        match depth with
        | 0 => none
        | depth + 1 => match skipSpace rest with
          | ']' :: rest => some (.arr [], rest)
          | rest => do
            let (items, rest) ← items? fuel depth rest
            pure (.arr items, rest)
      else if c = '\x7b' then
        match depth with
        | 0 => none
        | depth + 1 => match skipSpace rest with
          | '\x7d' :: rest => some (.obj [], rest)
          | rest => do
            let (fields, rest) ← fields? fuel depth [] rest
            pure (.obj fields, rest)
      else if c = 't' then (afterWord? ['r', 'u', 'e'] rest).map (.bool true, ·)
      else if c = 'f' then (afterWord? ['a', 'l', 's', 'e'] rest).map (.bool false, ·)
      else if c = 'n' then (afterWord? ['u', 'l', 'l'] rest).map (.null, ·)
      else (number? (c :: rest)).map fun (n, rest) => (.num n, rest)

/-- The items of an array from the next one on, and the text after its closing bracket. -/
def items? : Nat → Nat → List Char → Option (List Json × List Char)
  | 0, _, _ => none
  | fuel + 1, depth, s => do
    let (item, s) ← value? fuel depth s
    match skipSpace s with
    | ',' :: s => do
      let (items, s) ← items? fuel depth s
      pure (item :: items, s)
    | ']' :: s => pure ([item], s)
    | _ => none

/-- The fields of an object from the next one on, added to those before, and the text after its
closing brace. -/
def fields? : Nat → Nat → List (String × Json) → List Char →
    Option (List (String × Json) × List Char)
  | 0, _, _, _ => none
  | fuel + 1, depth, before, s =>
    match skipSpace s with
    | '"' :: s => do
      let (key, s) ← stringBody (s.length + 1) [] s
      match skipSpace s with
      | ':' :: s => do
        let (item, s) ← value? fuel depth s
        let before := insertField key item before
        match skipSpace s with
        | ',' :: s => fields? fuel depth before s
        | '\x7d' :: s => pure (before, s)
        | _ => none
      | _ => none
    | _ => none

end

/-- The value that a text writes, with arrays and objects nested at most `depth` deep. -/
def parseNested (depth : Nat) (text : String) : Option Json := do
  let s := text.toList
  let (j, rest) ← value? (2 * s.length + 2) depth s
  match skipSpace rest with
  | [] => pure j
  | _ => none

/-- How deep arrays and objects may nest in content. -/
def maxDepth : Nat := 127

/-- The value that a text of content writes. -/
def parse (text : String) : Option Json := parseNested maxDepth text

end Json

end Parley
