import Parley.Console.Cast
import Parley.Console.Screen
import Parley.Conversation.Run
import Parley.Settings
import Parley.Topic.Directory

/-!
# The console

Conversations held by lines of text. A console waits for a line; `Console.feed` takes the line, or
learns that there are no more, and says what is written before the console waits again or stops.
After a conversation it asks whether there is to be another one, which the same actors begin with
what they have become.
-/

namespace Parley

/-- The exit code of a program that a fault breaks off. -/
def faultCode : UInt32 := 101

/-- What a console waits for, or how it stopped. -/
inductive Phase where
  /-- One of the offers is to be chosen. -/
  | choosing (session : Session Player Npc) (offers : List Offer)
  /-- A conversation is over and there may be another one. -/
  | asking (cast : Cast) (globals : Dict String)
  | stopped
  | broken (fault : Fault)

namespace Phase

/-- Is a line waited for? -/
def isWaiting : Phase → Bool
  | .choosing .. => true
  | .asking .. => true
  | .stopped => false
  | .broken _ => false

/-- The exit code of the program when it stops in a phase. -/
def exitCode : Phase → UInt32
  | .broken _ => faultCode
  | _ => 0

end Phase

/-- A console. -/
structure Console where
  settings : TalkSettings
  registry : Registry
  /-- The seed of the next conversation where the settings have none. -/
  entropy : UInt64
  phase : Phase

namespace Console

/-- The console in another phase. -/
def within (c : Console) (phase : Phase) : Console := { c with phase }

/-- Present the topic of a session and wait for a choice. -/
def present (c : Console) (session : Session Player Npc) : String × Console :=
  let ((line, offers), session) := session.opening
  (Screen.cycle (Actor.name session.scene.npc) line offers ++ Screen.prompt,
    c.within (.choosing session offers))

/-- Begin a conversation. A speaker with a first topic of its own begins with that. -/
def converse (c : Console) (cast : Cast) (globals : Dict String) : String × Console :=
  let settings :=
    { c.settings with firstTopic := cast.npc.firstTopic.getD c.settings.firstTopic }
  let session := Session.start cast.player cast.npc globals c.registry settings c.entropy
  { c with entropy := c.entropy + 1 }.present session

/-- The cast after a session, which may have asked for the topic to begin with next time. -/
def castAfter (session : Session Player Npc) : Cast :=
  let npc := session.scene.npc
  match session.encounter.handoff with
  | some (.openDialogue (some topic)) =>
    ⟨session.scene.u, { npc with firstTopic := some topic }⟩
  | _ => ⟨session.scene.u, npc⟩

/-- Ask whether there is to be another conversation. -/
def ask (c : Console) (session : Session Player Npc) : String × Console :=
  (Screen.question, c.within (.asking (castAfter session) session.scene.globals))

/-- Go on with a choice that was made on a line. -/
def choose (c : Console) (session : Session Player Npc) (choice : Nat) : String × Console :=
  match session.select choice with
  | (.error fault, _) => ("", c.within (.broken fault))
  | (.ok _, session) => if session.done then c.ask session else c.present session

/-- Leave a conversation by its last offer because there are no more lines. -/
def leave (c : Console) (session : Session Player Npc) (offers : List Offer) : String × Console :=
  match session.select (offers.length - 1) with
  | (.error fault, _) => ("", c.within (.broken fault))
  | (.ok _, _) => ("", c.within .stopped)

/-- Take a line, or learn that there are no more: what is written, and the console after it. -/
def feed (c : Console) (line : Option String) : String × Console :=
  match c.phase, line with
  | .choosing session offers, some line => match Screen.choice? offers line with
    | some choice => c.choose session choice
    | none => (Screen.refusal ++ Screen.prompt, c)
  | .choosing session offers, none => c.leave session offers
  | .asking cast globals, some line =>
    if Screen.agrees line then c.converse cast globals else ("", c.within .stopped)
  | .asking _ _, none => ("", c.within .stopped)
  | .stopped, _ => ("", c)
  | .broken _, _ => ("", c)

/-- Take lines and then learn that there are no more, as long as the console waits. -/
def play (c : Console) : List String → String × Console
  | [] => if c.phase.isWaiting then c.feed none else ("", c)
  | line :: lines =>
    if c.phase.isWaiting then
      let (text, c) := c.feed (some line)
      let (more, c) := c.play lines
      (text ++ more, c)
    else ("", c)

/-- The path of the settings where none is given. -/
def defaultPath : String := "dialogue.toml"

/-- The path of a name in a directory. -/
def join (directory name : String) : String :=
  if directory = "" ∨ directory.endsWith "/" then directory ++ name
  else directory ++ "/" ++ name

/-- Begin with the settings, the topics and the cast that `find` gives for their paths; the
arguments may name the path of the settings. -/
def begin? {m : Type → Type} [Monad m] (find : String → m (Option FileNode))
    (args : List String) (entropy : UInt64) : m (Except Failure (String × Console)) := do
  match Settings.ofFile (← find (args.head?.getD defaultPath)) with
  | .error failure => return .error failure
  | .ok settings =>
    let dir := settings.content.dataDir
    match Registry.ofDirectory (← find (join dir "topics")) with
    | .error failure => return .error failure
    | .ok registry => match Cast.ofFile (← find (join dir "cast.toml")) with
      | .error failure => return .error failure
      | .ok cast =>
        let c : Console := { settings := settings.talk, registry, entropy, phase := .stopped }
        return .ok (c.converse cast .empty)

/-- The exit code of a program that cannot begin. -/
def failureCode : Failure → UInt32
  | .fault _ => faultCode
  | _ => 1

end Console

end Parley
