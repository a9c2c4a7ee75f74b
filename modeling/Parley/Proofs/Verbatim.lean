import Parley.Actor.Npc
import Parley.Actor.Player
import Parley.Conversation.Session
import Parley.Proofs.Tags

/-!
# Inserted text

The names of the two sides, the item that is talked about and the reason for a refusal are inserted
for the tags of a text one after another. So the reason, which comes last, is shown as it is, and a
name is read for the tags that come after it.
-/

namespace Parley

namespace Text.Tag

/-- The tag for the name of the player's side. -/
def uName : Tag := ⟨"u_name".toList, by decide, by decide⟩

/-- The tag for the name of the other speaker. -/
def npcName : Tag := ⟨"npc_name".toList, by decide, by decide⟩

/-- The tag for the item that is talked about. -/
def topicItem : Tag := ⟨"topic_item".toList, by decide, by decide⟩

/-- The tag for the reason of a refusal. -/
def reason : Tag := ⟨"reason".toList, by decide, by decide⟩

end Text.Tag

open Text

namespace Scene

variable {α β : Type} [Actor α] [Actor β]

/-- What is inserted into the texts of a scene, in the order in which the tags are replaced. -/
def insertions (s : Scene α β) : List Insertion :=
  [⟨.uName, (Actor.name s.u).toList⟩, ⟨.npcName, (Actor.name s.npc).toList⟩,
    ⟨.topicItem, (s.current.item.getD "").toList⟩, ⟨.reason, s.current.reason.toList⟩]

/-- The text with its tags filled in at once, and every inserted text left as it is. -/
def fill (s : Scene α β) (text : String) : String :=
  .ofList (Text.fill s.insertions text.toList)

/-- No two insertions belong to the same tag. -/
theorem distinct_insertions (s : Scene α β) : Distinct s.insertions := by
  have tags : [Tag.uName, .npcName, .topicItem, .reason].Pairwise fun t t' => t' ≠ t := by decide
  exact (List.pairwise_map (f := fun e : Insertion => e.tag) (l := s.insertions)).1 tags

/-- Texts are substituted tag by tag, in the order of the table. -/
theorem substitute_eq_replaceEach (s : Scene α β) (text : String) :
    s.substitute text = .ofList (replaceEach s.insertions text.toList) := by
  simp only [substitute, Text.replace, String.toList_ofList]
  rfl

/-- Where the passes fill in only what was written, they come to a single pass. -/
theorem substitute_eq_fill {s : Scene α β} {text : String}
    (tight : expanded s.insertions text.toList = written s.insertions text.toList) :
    s.substitute text = s.fill text := by
  rw [substitute_eq_replaceEach, replaceEach_eq_fill s.distinct_insertions tight, fill]

/-- No tag that a text is written with is left in it. The passes expand just the tags that it is
written with, and then the text is filled in at once, for every text just when no inserted text
takes part in a tag that is replaced after its own: the name of the player's side in none of the
other three, the name of the other speaker in neither that of the item nor that of the reason, and
the item not in that of the reason. -/
theorem verbatim_iff_inert (s : Scene α β) :
    (∀ text : String,
        written s.insertions text.toList ≤ expanded s.insertions text.toList ∧
          (expanded s.insertions text.toList = written s.insertions text.toList →
            s.substitute text = s.fill text)) ∧
      ((∀ text : String,
          expanded s.insertions text.toList = written s.insertions text.toList) ↔
        s.insertions.Pairwise fun e later => later.tag.Inert e.value) := by
  have distinct := s.distinct_insertions
  refine ⟨fun text => ⟨written_le_expanded distinct, substitute_eq_fill⟩, ?_⟩
  rw [← expanded_eq_written_iff_inert distinct]
  refine ⟨fun tight text => ?_, fun tight text => tight text.toList⟩
  simpa only [String.toList_ofList] using tight (.ofList text)

/-- Names that cannot be taken for a part of a tag are shown as they are, whatever the reason. -/
theorem substitute_eq_fill_of_plain (s : Scene α β)
    (plain : ∀ name ∈ [Actor.name s.u, Actor.name s.npc, s.current.item.getD ""],
      '<' ∉ name.toList ∧ '>' ∉ name.toList ∧
        ∀ t ∈ [Tag.npcName, .topicItem, .reason], ¬name.toList <:+: t.name) (text : String) :
    s.substitute text = s.fill text := by
  have inert {name : String} {t : Tag}
      (mem : name ∈ [Actor.name s.u, Actor.name s.npc, s.current.item.getD ""])
      (later : t ∈ [Tag.npcName, .topicItem, .reason]) : t.Inert name.toList :=
    have ⟨opening, closing, apart⟩ := plain name mem
    .of_plain opening closing (apart t later)
  have pairwise : s.insertions.Pairwise fun e later => later.tag.Inert e.value := by
    simp only [insertions, List.pairwise_cons, List.forall_mem_cons, List.not_mem_nil,
      IsEmpty.forall_iff, implies_true, List.Pairwise.nil, and_true]
    refine ⟨⟨?_, ?_, ?_⟩, ⟨?_, ?_⟩, ?_⟩ <;> exact inert (by simp) (by simp)
  exact substitute_eq_fill (expanded_eq_written_of_inert s.distinct_insertions pairwise)

/-- The player's side is called like the tag of the other speaker, or like its middle part, and the
other speaker's name is shown in place of the player's. -/
theorem name_expanded_again :
    let scene (name : String) : Scene Player Npc :=
      { u := .ofSheet (.new name), npc := .ofSheet (.new "Ann"), globals := .empty
        current := { id := "TALK" }, earlier := [], missionsAssigned := [], byRadio := false }
    ((scene "<npc_name>").substitute "Hello, <u_name>." = "Hello, Ann." ∧
        (scene "<npc_name>").fill "Hello, <u_name>." = "Hello, <npc_name>.") ∧
      (scene "npc").substitute "Hello, <<u_name>_name>." = "Hello, Ann." ∧
        (scene "npc").fill "Hello, <<u_name>_name>." = "Hello, <npc_name>." := by
  decide +kernel

end Scene

end Parley
