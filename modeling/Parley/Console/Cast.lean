import Parley.Actor.Npc
import Parley.Actor.Player
import Parley.FileTree
import Parley.Toml.Parser

/-!
# The cast

The two actors of a conversation at the console, as a TOML document writes them.
-/

namespace Parley

/-- The player and the other speaker. -/
structure Cast where
  player : Player
  npc : Npc

namespace Cast

/-- The cast where none is written. -/
def strangers : Cast := ⟨.ofSheet (.new "You"), .ofSheet (.new "Stranger")⟩

/-- The fields of a cast. -/
def fields : Fields Cast :=
  Cast.mk <$> .required "player" (Player.reader .trailing)
    <*> .required "npc" (Npc.reader .trailing)

/-- The cast that a TOML document writes. -/
def ofToml (text : String) : Except Failure Cast :=
  match Toml.parse text with
  | none => .error .config
  | some document => (fields.readObject document).mapError fun _ => .config

/-- The cast in a file; strangers if there is no such file. -/
def ofFile : Option FileNode → Except Failure Cast
  | none => .ok strangers
  | some node => do ofToml (← node.text)

end Cast

end Parley
