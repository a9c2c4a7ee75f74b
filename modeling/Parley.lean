import Parley.Actor.Basic
import Parley.Actor.Npc
import Parley.Actor.Player
import Parley.Actor.Sheet
import Parley.Actor.Values
import Parley.Actor.Writer
import Parley.Condition.Basic
import Parley.Condition.Reader
import Parley.Console.Basic
import Parley.Console.Cast
import Parley.Console.Screen
import Parley.Conversation.Offer
import Parley.Conversation.Run
import Parley.Conversation.Scene
import Parley.Conversation.Session
import Parley.Dict
import Parley.Duration
import Parley.Effect.Basic
import Parley.Effect.Encounter
import Parley.Effect.Execution
import Parley.Effect.Outcome
import Parley.Effect.Reader
import Parley.Failure
import Parley.FileTree
import Parley.Formula
import Parley.Item
import Parley.Json.Basic
import Parley.Json.Parser
import Parley.Json.Printer
import Parley.Json.Reader
import Parley.Json.Writer
import Parley.Main
import Parley.Number.Basic
import Parley.Number.Binary64
import Parley.Proofs.Accepted
import Parley.Proofs.Adjusting
import Parley.Proofs.Agreement
import Parley.Proofs.Aiming
import Parley.Proofs.Assigned
import Parley.Proofs.Assignment
import Parley.Proofs.Attempts
import Parley.Proofs.BooleanLaws
import Parley.Proofs.Causes
import Parley.Proofs.Chances
import Parley.Proofs.CheckedSession
import Parley.Proofs.CheckedTrial
import Parley.Proofs.ConsoleLines
import Parley.Proofs.Decimal
import Parley.Proofs.Deed
import Parley.Proofs.Distances
import Parley.Proofs.Entering
import Parley.Proofs.Enumerating
import Parley.Proofs.Exact
import Parley.Proofs.Failing
import Parley.Proofs.Faults
import Parley.Proofs.Frame
import Parley.Proofs.Hints
import Parley.Proofs.Hostility
import Parley.Proofs.Joining
import Parley.Proofs.Leaving
import Parley.Proofs.Listing
import Parley.Proofs.Loading
import Parley.Proofs.Locating
import Parley.Proofs.Looking
import Parley.Proofs.Lots
import Parley.Proofs.Merging
import Parley.Proofs.MissionOpinion
import Parley.Proofs.Missions
import Parley.Proofs.Move
import Parley.Proofs.Mutating
import Parley.Proofs.Offering
import Parley.Proofs.Operation
import Parley.Proofs.Owning
import Parley.Proofs.Packing
import Parley.Proofs.Preorder
import Parley.Proofs.Ranges
import Parley.Proofs.Recovery
import Parley.Proofs.References
import Parley.Proofs.Removal
import Parley.Proofs.SameLook
import Parley.Proofs.Saturation
import Parley.Proofs.Scripted
import Parley.Proofs.Sentinel
import Parley.Proofs.SheetChange
import Parley.Proofs.Shown
import Parley.Proofs.Solvency
import Parley.Proofs.Steady
import Parley.Proofs.Steps
import Parley.Proofs.Stirring
import Parley.Proofs.Stores
import Parley.Proofs.Switches
import Parley.Proofs.Tags
import Parley.Proofs.TopicGraph
import Parley.Proofs.TopicItem
import Parley.Proofs.TopicStack
import Parley.Proofs.Trade
import Parley.Proofs.Verbatim
import Parley.Proofs.Visible
import Parley.Proofs.Warning
import Parley.Proofs.WellFormed
import Parley.Quantity
import Parley.Random.ChaCha
import Parley.Random.Generator
import Parley.Settings
import Parley.Text.Basic
import Parley.Text.Upper
import Parley.Toml.Moment
import Parley.Toml.Parser
import Parley.Toml.Scalar
import Parley.Toml.Table
import Parley.Topic.Basic
import Parley.Topic.Directory
import Parley.Topic.Line
import Parley.Topic.Registry
import Parley.Topic.Response
import Parley.Trial.Basic
import Parley.Trial.Reader
import Parley.Variable
