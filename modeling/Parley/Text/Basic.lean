/-!
# Texts

Blanks are the characters of the Unicode property `White_Space`; texts are freed from them at both
ends, or everywhere. Numbers are written in ASCII digits, with an optional sign in front where
negative numbers are allowed. Leading zeros are harmless; blanks, separators and digits of other
scripts are not part of a number. Tags give way to values, searched from left to right and without
overlaps.
-/

namespace Parley.Text

/-- Has `c` the Unicode property `White_Space`? -/
def isBlank (c : Char) : Bool :=
  let n := c.toNat
  (9 ≤ n && n ≤ 13) || n = 0x20 || n = 0x85 || n = 0xA0 || n = 0x1680 ||
    (0x2000 ≤ n && n ≤ 0x200A) || n = 0x2028 || n = 0x2029 || n = 0x202F || n = 0x205F ||
    n = 0x3000

/-- The text without the blanks at its ends. -/
def trim (s : List Char) : List Char :=
  ((s.dropWhile isBlank).reverse.dropWhile isBlank).reverse

/-- The text without any blank. -/
def squeeze (s : List Char) : List Char :=
  s.filter (!isBlank ·)

/-- The value of an ASCII digit. -/
def digit? (c : Char) : Option Nat :=
  if '0' ≤ c ∧ c ≤ '9' then some (c.toNat - '0'.toNat) else none

/-- The number that a run of digits writes, after the digits that made `acc`. -/
def digitsFrom (acc : Nat) : List Char → Option Nat
  | [] => some acc
  | c :: rest => match digit? c with
    | some d => digitsFrom (10 * acc + d) rest
    | none => none

/-- The number written by at least one digit and nothing else. -/
def natural? : List Char → Option Nat
  | [] => none
  | s@(_ :: _) => digitsFrom 0 s

/-- The number written by digits after an optional plus sign. -/
def unsigned? : List Char → Option Nat
  | '+' :: rest => natural? rest
  | s => natural? s

/-- The number written by digits after an optional sign. -/
def integer? : List Char → Option Int
  | '-' :: rest => (natural? rest).map fun n => -(n : Int)
  | s => (unsigned? s).map fun n => (n : Int)

/-- Replace `tag` by `value` in a text of which the first `skip` characters belong to a tag that
has been replaced already. -/
def replaceFrom (tag value : List Char) : Nat → List Char → List Char
  | _, [] => []
  | skip + 1, _ :: rest => replaceFrom tag value skip rest
  | 0, c :: rest =>
    if tag.isPrefixOf (c :: rest) then value ++ replaceFrom tag value (tag.length - 1) rest
    else c :: replaceFrom tag value 0 rest

/-- Replace every occurrence of the non-empty `tag` by `value`. -/
def replace (tag value text : String) : String :=
  .ofList (replaceFrom tag.toList value.toList 0 text.toList)

end Parley.Text
