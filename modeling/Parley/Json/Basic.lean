import Parley.Number.Binary64

/-!
# JSON values

Content is written as JSON. An object keeps its fields in ascending order of the keys, each key
once; `Json.insertField` keeps it so.
-/

namespace Parley

/-- A JSON number: an integer of at most 64 bits, or a floating-point number. -/
inductive Number where
  | int (n : Int)
  | float (x : Binary64)
deriving DecidableEq, Repr

/-- A JSON value. -/
inductive Json where
  | null
  | bool (b : Bool)
  | num (n : Number)
  | str (s : String)
  | arr (items : List Json)
  | obj (fields : List (String × Json))
deriving Inhabited

namespace Json

/-- An integer as a JSON value. -/
def int (n : Int) : Json := .num (.int n)

/-- Set a field in a sorted list of fields; a field of that key gives way. -/
def insertField (key : String) (value : Json) : List (String × Json) → List (String × Json)
  | [] => [(key, value)]
  | (k, v) :: rest =>
    if key < k then (key, value) :: (k, v) :: rest
    else if key = k then (key, value) :: rest
    else (k, v) :: insertField key value rest

/-- The object with the given fields; of two with one key the later counts. -/
def object (fields : List (String × Json)) : Json :=
  .obj (fields.foldl (fun acc f => insertField f.1 f.2 acc) [])

/-- The field of an object, if it is there. -/
def field? (key : String) : Json → Option Json
  | .obj fields => fields.lookup key
  | _ => none

/-- The text of a string. -/
def string? : Json → Option String
  | .str s => some s
  | _ => none

mutual

/-- The number of arrays and objects that enclose the innermost value, plus one. -/
def depth : Json → Nat
  | .arr items => depthItems items + 1
  | .obj fields => depthFields fields + 1
  | _ => 1

/-- The greatest depth among the items of an array. -/
def depthItems : List Json → Nat
  | [] => 0
  | j :: rest => max j.depth (depthItems rest)

/-- The greatest depth among the values of an object. -/
def depthFields : List (String × Json) → Nat
  | [] => 0
  | (_, j) :: rest => max j.depth (depthFields rest)

end

mutual

/-- Are two values the same? -/
def same : Json → Json → Bool
  | .null, .null => true
  | .bool a, .bool b => a = b
  | .num a, .num b => a = b
  | .str a, .str b => a = b
  | .arr a, .arr b => sameItems a b
  | .obj a, .obj b => sameFields a b
  | _, _ => false

/-- Are the items of two arrays the same? -/
def sameItems : List Json → List Json → Bool
  | [], [] => true
  | a :: as, b :: bs => same a b && sameItems as bs
  | _, _ => false

/-- Are the fields of two objects the same? -/
def sameFields : List (String × Json) → List (String × Json) → Bool
  | [], [] => true
  | (k, a) :: as, (l, b) :: bs => k = l && same a b && sameFields as bs
  | _, _ => false

end

mutual

/-- The comparison of values decides their equality. -/
theorem same_iff (a b : Json) : same a b = true ↔ a = b := by
  cases a with
  | arr a =>
    cases b with
    | arr b => rw [same, sameItems_iff a b, arr.injEq]
    | _ => simp [same]
  | obj a =>
    cases b with
    | obj b => rw [same, sameFields_iff a b, obj.injEq]
    | _ => simp [same]
  | _ => cases b <;> simp [same]

theorem sameItems_iff (a b : List Json) : sameItems a b = true ↔ a = b := by
  cases a with
  | nil => cases b <;> simp [sameItems]
  | cons a as =>
    cases b with
    | nil => simp [sameItems]
    | cons b bs =>
      rw [sameItems, Bool.and_eq_true, same_iff a b, sameItems_iff as bs, List.cons.injEq]

theorem sameFields_iff (a b : List (String × Json)) : sameFields a b = true ↔ a = b := by
  match a, b with
  | [], [] => simp [sameFields]
  | [], _ :: _ => simp [sameFields]
  | _ :: _, [] => simp [sameFields]
  | (k, a) :: as, (l, b) :: bs =>
    rw [sameFields, Bool.and_eq_true, Bool.and_eq_true, decide_eq_true_eq, same_iff a b,
      sameFields_iff as bs, List.cons.injEq, Prod.mk.injEq]

end

instance : DecidableEq Json := fun a b => decidable_of_iff _ (same_iff a b)

end Json

end Parley
