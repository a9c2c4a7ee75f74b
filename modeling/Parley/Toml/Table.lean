import Parley.Json.Basic

/-!
# Tables of a TOML document

A TOML document is a tree of tables, written in pieces: by headers, by arrays of tables and by
dotted keys. The rules here say which pieces may add to which table. No key is defined twice; a
table written by a header can be written by another one only if it was so far only the parent of
others, and dotted keys extend only tables that were themselves written by dotted keys.
-/

namespace Parley.Toml

/-- A part of a document. -/
inductive Node where
  /-- A value, which nothing can be added to. -/
  | value (j : Json)
  /-- A table. It is implicit if it was only ever the parent of others, and dotted if it was
  written by dotted keys. -/
  | table (implicit dotted : Bool) (entries : List (String × Node))
  /-- An array of tables, the last one first. -/
  | tables (elements : List Node)

namespace Node

/-- The table without entries that stands for a document before its first line. -/
def root : Node := .table false false []

/-- Set an entry. -/
def setEntry (key : String) (node : Node) : List (String × Node) → List (String × Node)
  | [] => [(key, node)]
  | (k, n) :: rest => if k = key then (key, node) :: rest else (k, n) :: setEntry key node rest

/-- Change the table at the end of a path. Tables that are missing on the way are made; an array
of tables stands for its last one. A path of `dotted` keys goes only through implicit tables. -/
def descend (dotted : Bool) (f : Node → Option Node) : List String → Node → Option Node
  | [], t => f t
  | key :: path, .table implicit dotted' entries => do
    let child ← match (entries.lookup key).getD (.table true dotted []) with
      | .value _ => none
      | .tables [] => none
      | .tables (t :: rest) => (descend dotted f path t).map fun t => .tables (t :: rest)
      | .table i d es => if dotted && !i then none else descend dotted f path (.table i d es)
    pure (.table implicit dotted' (setEntry key child entries))
  | _ :: _, _ => none

/-- Change the entry of a table. -/
def alter (key : String) (f : Option Node → Option Node) : Node → Option Node
  | .table implicit dotted entries => do
    pure (.table implicit dotted (setEntry key (← f (entries.lookup key)) entries))
  | _ => none

/-- Write a value under a key in a table, the key being dotted if it has several parts. -/
def assign (path : List String) (j : Json) (t : Node) : Option Node :=
  match path.reverse with
  | [] => none
  | key :: back =>
    let parents := back.reverse
    descend true (fun t => match t with
      | .table _ dotted _ =>
        if dotted = parents.isEmpty then none
        else t.alter key fun
          | none => some (.value j)
          | some _ => none
      | _ => none) parents t

/-- Begin a table with a header. -/
def beginTable (path : List String) (t : Node) : Option Node :=
  match path.reverse with
  | [] => none
  | key :: back =>
    descend false (alter key fun
      | none => some (.table false false [])
      | some (.table true false entries) => some (.table false false entries)
      | some _ => none) back.reverse t

/-- Begin the next table of an array of tables with a header. -/
def beginElement (path : List String) (t : Node) : Option Node :=
  match path.reverse with
  | [] => none
  | key :: back =>
    descend false (alter key fun
      | none => some (.tables [.table false false []])
      | some (.tables elements) => some (.tables (.table false false [] :: elements))
      | some _ => none) back.reverse t

mutual

/-- The value that a part of a document stands for. -/
def toJson : Node → Json
  | .value j => j
  | .table _ _ entries => Json.object (entriesToJson entries)
  | .tables elements => .arr (elementsToJson elements).reverse

/-- The fields of a table. -/
def entriesToJson : List (String × Node) → List (String × Json)
  | [] => []
  | (k, n) :: rest => (k, n.toJson) :: entriesToJson rest

/-- The tables of an array. -/
def elementsToJson : List Node → List Json
  | [] => []
  | n :: rest => n.toJson :: elementsToJson rest

end

end Node

end Parley.Toml
