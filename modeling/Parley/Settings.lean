import Parley.FileTree
import Parley.Toml.Parser

/-!
# Settings

How the program finds its content and how conversations are held, with a default for everything.
-/

namespace Parley

/-- Where content is found. -/
structure ContentSettings where
  dataDir : String := "data"
  hotReload : Bool := false
deriving DecidableEq, Repr

/-- How a conversation is held. -/
structure TalkSettings where
  /-- Where the random numbers start; anywhere, if it is not said. -/
  seed : Option UInt64 := none
  /-- What is said on a topic without a line. -/
  placeholderLine : String := "..."
  /-- The text of the response that ends the conversation. -/
  farewellText : String := "Bye."
  firstTopic : String := "TALK_START"
deriving DecidableEq, Repr

/-- What is written to the log. -/
structure LogSettings where
  filter : String := "dialogue_engine=info"
deriving DecidableEq, Repr

/-- All settings. -/
structure Settings where
  content : ContentSettings := {}
  talk : TalkSettings := {}
  log : LogSettings := {}
deriving DecidableEq, Repr

/-- The fields of the settings on content. -/
def ContentSettings.fields : Fields ContentSettings :=
  ContentSettings.mk <$> .orElse "data_dir" .string "data" <*> .orElse "hot_reload" .bool false

/-- The fields of the settings on conversations. -/
def TalkSettings.fields : Fields TalkSettings :=
  TalkSettings.mk <$> .orElse "seed" (.nullable .uint64) none
    <*> .orElse "placeholder_line" .string "..."
    <*> .orElse "farewell_text" .string "Bye."
    <*> .orElse "first_topic" .string "TALK_START"

/-- The fields of the settings on the log. -/
def LogSettings.fields : Fields LogSettings :=
  LogSettings.mk <$> .orElse "filter" .string "dialogue_engine=info"

/-- The fields of all settings. -/
def Settings.fields : Fields Settings :=
  Settings.mk <$> .orElse "content" (ContentSettings.fields.readWith .trailing) {}
    <*> .orElse "dialogue" (TalkSettings.fields.readWith .trailing) {}
    <*> .orElse "logging" (LogSettings.fields.readWith .trailing) {}

namespace Settings

/-- The settings that a TOML document writes. -/
def ofToml (text : String) : Except Failure Settings :=
  match Toml.parse text with
  | none => .error .config
  | some document => (fields.readObject document).mapError fun _ => .config

/-- The settings in a file; the defaults if there is no such file. -/
def ofFile : Option FileNode → Except Failure Settings
  | none => .ok {}
  | some node => do ofToml (← node.text)

end Settings

end Parley
