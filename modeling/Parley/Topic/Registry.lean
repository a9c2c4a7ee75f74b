import Parley.Json.Parser
import Parley.Topic.Basic

/-!
# The registry of topics

All topics that were loaded, by id. Records that are no topics or cannot be used are skipped; a
text that is not JSON is refused as a whole.
-/

namespace Parley

/-- Topics by id. -/
structure Registry where
  topics : Dict Topic

namespace Registry

/-- The registry without topics. -/
def empty : Registry := ⟨.empty⟩

/-- The topic of an id. -/
def get? (r : Registry) (id : String) : Option Topic := r.topics.get? id

/-- Is there a topic of this id? -/
def contains (r : Registry) (id : String) : Bool := r.topics.contains id

/-- The ids in ascending order. -/
def ids (r : Registry) : List String := r.topics.keys

/-- The number of topics. -/
def size (r : Registry) : Nat := r.topics.size

/-- Are there no topics? -/
def isEmpty (r : Registry) : Bool := r.topics.isEmpty

/-- Add a definition to those of its topic. -/
def insert (r : Registry) (t : Topic) : Registry :=
  ⟨r.topics.insert t.id (match r.get? t.id with
    | some earlier => earlier.merge t
    | none => t)⟩

/-- Add definitions in order. -/
def insertAll (r : Registry) (ts : List Topic) : Registry := ts.foldl insert r

/-- The definitions that a record of content gives; none if it is no topic or cannot be used. -/
def definitions (record : Json) : Except Failure (List Topic) :=
  if (record.field? "type").bind Json.string? = some "talk_topic" then
    match Topic.allOfJson record with
    | .ok ts => .ok ts
    | .error (.fault cause) => .error (.fault cause)
    | .error _ => .ok []
  else .ok []

/-- The records of a text of content: the items of an array, or a single record. -/
def records : Json → List Json
  | .arr items => items
  | single => [single]

/-- Add the definitions of records one record after another, and count them. A record whose reading
is broken off ends this; what was added before it stays. -/
def addRecords (r : Registry) : List Json → Except Failure Nat × Registry
  | [] => (.ok 0, r)
  | record :: rest => match definitions record with
    | .ok ts =>
      let (count, r') := (r.insertAll ts).addRecords rest
      (count.map (ts.length + ·), r')
    | .error failure => (.error failure, r)

/-- Add the topics that a text of content defines, and say how many definitions there were. -/
def load (r : Registry) (source text : String) : Except Failure Nat × Registry :=
  match Json.parse text with
  | none => (.error (ReadError.invalidJson.inContent source), r)
  | some j => r.addRecords (records j)

/-- The topics to which one leads directly, ascending and without repeats. -/
def reachable (r : Registry) (id : String) : List String :=
  match r.get? id with
  | some t =>
    (NameSet.ofNames (t.nextTopics.filter fun n => n ≠ stayHere && n ≠ endTalk)).keys
  | none => []

/-- The pairs of a topic and one to which it leads that is not defined. -/
def dangling (r : Registry) : List (String × String) :=
  r.ids.flatMap fun id => ((r.reachable id).filter (!r.contains ·)).map (id, ·)

/-- What is wrong with the graph, in words. -/
def problems (r : Registry) : List String :=
  r.dangling.map fun (id, next) =>
    "Topic '" ++ id ++ "' references undefined topic '" ++ next ++ "'"

end Registry

end Parley
