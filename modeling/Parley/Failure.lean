import Parley.Json.Reader

/-!
# What can go wrong

The causes for which content is refused, an evaluation gives no value, an effect cannot happen or
a file cannot be used, and the words for each. A failure can be met by going on without what
failed; a fault cannot.
-/

namespace Parley

/-- A fault, which breaks off all that goes on. -/
inductive Fault where
  /-- The least integer divided by minus one. -/
  | quotientOverflow
  /-- A response was chosen that is not on offer. -/
  | noSuchResponse (index offered : Nat)
  /-- A number was asked for from a range that has none. -/
  | emptyRange
  /-- A duration that fills the last second which can be counted. -/
  | durationOverflow
deriving DecidableEq, Repr

/-- A fault in words. -/
def Fault.message : Fault → String
  | .quotientOverflow => "attempt to divide with overflow"
  | .noSuchResponse index offered =>
    "response index " ++ toString index ++ " out of range (" ++ toString offered ++ " offered)"
  | .emptyRange => "cannot sample empty range"
  | .durationOverflow => "overflow in Duration::new"

/-- What was looked for and not found. -/
inductive Sought where
  | mutationSource
  | mutationCategory
  | mutation
  | inventory
  | item
  | teleportTarget
  | mission
  | missionType
  | spell
  | recipe
  | monster
  | controllableActor
deriving DecidableEq, Repr

/-- The word for what was looked for. -/
def Sought.word : Sought → String
  | .mutationSource => "mutation source"
  | .mutationCategory => "mutation category"
  | .mutation => "mutation"
  | .inventory => "inventory"
  | .item => "item"
  | .teleportTarget => "teleport target"
  | .mission => "mission"
  | .missionType => "mission type"
  | .spell => "spell"
  | .recipe => "recipe"
  | .monster => "monster"
  | .controllableActor => "controllable actor"

/-- What a stored text was expected to write. -/
inductive Expected where
  | integer
  | duration
deriving DecidableEq, Repr

/-- The words for what a stored text was expected to write. -/
def Expected.words : Expected → String
  | .integer => "an integer"
  | .duration => "a duration in turns"

/-- A cause of failure. -/
inductive Failure where
  /-- Content is refused at a place. -/
  | content (context message : String)
  /-- A reference to a variable has no default. -/
  | missingDefault (name : String)
  /-- No store belongs to a scope. -/
  | unsupportedScope (scope : String)
  | unknownEffect (name : String)
  | unknownCondition (name : String)
  | unknownModifier (name : String)
  /-- A variable holds a text that does not write what is expected. -/
  | variableText (name value : String) (expected : Expected)
  | divisionByZero
  /-- Something is not there. -/
  | lookup (sought : Sought) (id : String)
  /-- A number of items that makes no sense. -/
  | invalidCount (item : String) (count : Int64)
  /-- An actor does not take an item. -/
  | itemRejected (actor item : String)
  | insufficientFunds (needed available : Int64)
  /-- The settings or the cast cannot be read. -/
  | config
  /-- A value is not of the form that is asked for. -/
  | unreadable (error : ReadError)
  /-- A file or a directory cannot be read. -/
  | io
  /-- A fault that reading content ran into. -/
  | fault (cause : Fault)
deriving DecidableEq, Repr

namespace Failure

/-- A failure in words. -/
def message : Failure → String
  | .content context message => "Content error in '" ++ context ++ "': " ++ message
  | .missingDefault name => "Variable '" ++ name ++ "' has no default value"
  | .unsupportedScope scope => "Variable scope '" ++ scope ++ "' is not implemented"
  | .unknownEffect name => "Unknown effect '" ++ name ++ "'"
  | .unknownCondition name => "Unknown condition '" ++ name ++ "'"
  | .unknownModifier name => "Unknown trial modifier '" ++ name ++ "'"
  | .variableText name value expected =>
    "Variable '" ++ name ++ "' holds '" ++ value ++ "', expected " ++ expected.words
  | .divisionByZero => "Division by zero"
  | .lookup sought id => sought.word ++ " '" ++ id ++ "' not found"
  | .invalidCount item count =>
    "Invalid count " ++ toString count.toInt ++ " for item '" ++ item ++ "'"
  | .itemRejected actor item => actor ++ " cannot take '" ++ item ++ "'"
  | .insufficientFunds needed available =>
    "Not enough cash: need " ++ toString needed.toInt ++ ", have " ++ toString available.toInt
  | .config => "Configuration error"
  | .unreadable error => "JSON error: " ++ error.message
  | .io => "I/O error"
  | .fault cause => cause.message

/-- A failure as seen from an enclosing place: the place is put in front of the one that a content
failure names already, and any other failure becomes a content failure there. A fault stays what it
is. -/
def inContext (context : String) : Failure → Failure
  | .content inner message => .content (context ++ "/" ++ inner) message
  | .fault cause => .fault cause
  | other => .content context other.message

end Failure

/-- A reading error as a failure at a place in content. -/
def ReadError.inContent (context : String) (e : ReadError) : Failure :=
  .content context e.message

end Parley
