import Parley.Toml.Scalar
import Parley.Toml.Table

/-!
# Reading TOML text

Reads a document of TOML 1.0 as the value of its root table.
-/

namespace Parley.Toml

/-- Is a character allowed in a key without quotes? -/
def isBare (c : Char) : Bool := c.isAlphanum || c = '_' || c = '-'

/-- One part of a key. -/
def keyPart? : List Char → Option (String × List Char)
  | '"' :: s => basicBody (s.length + 1) [] s
  | '\x27' :: s => literalBody [] s
  | s =>
    let name := s.takeWhile isBare
    if name.isEmpty then none else some (.ofList name, s.drop name.length)

/-- How many parts a key may have, and how deep values may nest. -/
def maxDepth : Nat := 79

/-- A key with at most `n` parts, blanks around it included. -/
def key? : Nat → List Char → Option (List String × List Char)
  | 0, _ => none
  | n + 1, s => do
    let (part, s) ← keyPart? (skipBlank s)
    match skipBlank s with
    | '.' :: s => do
      let (parts, s) ← key? n s
      pure (part :: parts, s)
    | s => pure ([part], s)

/-- What follows the rest of a line that holds nothing more than a comment. -/
def endOfLine? (s : List Char) : Option (List Char) :=
  let rest := match skipBlank s with
    | '#' :: s => s.dropWhile isText
    | s => s
  match rest with
  | [] => some []
  | s => newline? s

/-- The text from its first character that is no blank, end of line or comment. -/
def skipAll : Nat → List Char → List Char
  | 0, s => s
  | fuel + 1, s => match skipBlank s with
    | '#' :: s => match newline? (s.dropWhile isText) with
      | some s => skipAll fuel s
      | none => s.dropWhile isText
    | s => match newline? s with
      | some s => skipAll fuel s
      | none => s

mutual

/-- A value, in which arrays and tables nest at most `depth` deep. -/
def value? : Nat → Nat → List Char → Option (Json × List Char)
  | 0, _, _ => none
  | fuel + 1, depth, s =>
    match s with
    | '[' :: s => match depth with
      | 0 => none
      | depth + 1 => do
        let (items, s) ← items? fuel depth (skipAll s.length s)
        pure (.arr items, s)
    | '\x7b' :: s => match depth with
      | 0 => none
      | depth + 1 => match skipBlank s with
        | '\x7d' :: s => some (.obj [], s)
        | s => do
          let (t, s) ← pairs? fuel depth Node.root s
          pure (t.toJson, s)
    | s => scalarValue? s

/-- The items of an array from the next one on, and the text after its closing bracket. -/
def items? : Nat → Nat → List Char → Option (List Json × List Char)
  | 0, _, _ => none
  | fuel + 1, depth, s =>
    match s with
    | ']' :: s => some ([], s)
    | s => do
      let (item, s) ← value? fuel depth s
      match skipAll s.length s with
      | ',' :: s => do
        let (items, s) ← items? fuel depth (skipAll s.length s)
        pure (item :: items, s)
      | ']' :: s => pure ([item], s)
      | _ => none

/-- The pairs of an inline table from the next one on, added to those before, and the text after
its closing brace. -/
def pairs? : Nat → Nat → Node → List Char → Option (Node × List Char)
  | 0, _, _, _ => none
  | fuel + 1, depth, before, s => do
    let (path, s) ← key? maxDepth s
    let s ← after? '=' s
    let (item, s) ← value? fuel depth (skipBlank s)
    let before ← before.assign path item
    match skipBlank s with
    | ',' :: s => pairs? fuel depth before s
    | '\x7d' :: s => pure (before, s)
    | _ => none

end

/-- A document as far as it was read: its tables, and the path of the table being written. -/
structure Progress where
  root : Node
  path : List String

/-- Read a header, the opening bracket of which is gone. -/
def header? (p : Progress) (s : List Char) : Option (Progress × List Char) :=
  match s with
  | '[' :: s => do
    let (path, s) ← key? maxDepth s
    let s ← after? ']' (← after? ']' s)
    pure (⟨← p.root.beginElement path, path⟩, ← endOfLine? s)
  | s => do
    let (path, s) ← key? maxDepth s
    let s ← after? ']' s
    pure (⟨← p.root.beginTable path, path⟩, ← endOfLine? s)

/-- Read a line with a key and its value. -/
def pair? (p : Progress) (s : List Char) : Option (Progress × List Char) := do
  let (path, s) ← key? maxDepth s
  let s := skipBlank (← after? '=' s)
  let (item, s) ← value? (2 * s.length + 2) maxDepth s
  let root ← p.root.descend false (Node.assign path item) p.path
  pure ({ p with root }, ← endOfLine? s)

/-- Read the lines of a document. -/
def lines? : Nat → Progress → List Char → Option Progress
  | 0, _, _ => none
  | fuel + 1, p, s =>
    match skipAll (s.length + 1) s with
    | [] => some p
    | '[' :: s => do
      let (p, s) ← header? p s
      lines? fuel p s
    | s => do
      let (p, s) ← pair? p s
      lines? fuel p s

/-- The value of a document. -/
def parse (text : String) : Option Json := do
  let s := match text.toList with
    | c :: s => if c.toNat = 0xFEFF then s else c :: s
    | [] => []
  let p ← lines? (s.length + 1) ⟨.root, []⟩ s
  pure p.root.toJson

end Parley.Toml
