import Parley.Conversation.Session
import Parley.Proofs.Deed

/-!
# Visible responses

Where the responses on offer come from: each is an authored response of the topic, a repeat
response for one item, or the farewell.
-/

namespace Parley

namespace Session

variable {α β : Type} [Actor α] [Actor β] {scene : Scene α β} {r : Response}

theorem repeated_cons (template : Response) (item : String) (items : List String)
    (g : Generator) :
    repeated scene template (item :: items) g =
      let visible := holds scene template.condition (some item) g
      let more := repeated scene template items visible.2
      (if visible.1 then instantiate template item :: more.1 else more.1, more.2) := by
  rw [repeated]
  rfl

/-- Repeated responses come from their items. -/
theorem mem_repeated {template : Response} {items : List String} {g : Generator}
    (h : r ∈ (repeated scene template items g).1) :
    ∃ item ∈ items, r = instantiate template item := by
  induction items generalizing g with
  | nil => cases h
  | cons item items ih =>
    rw [repeated_cons] at h
    dsimp only at h
    split at h
    · rcases List.mem_cons.1 h with rfl | h
      · exact ⟨item, .head _, rfl⟩
      · obtain ⟨item', mem, rfl⟩ := ih h
        exact ⟨item', .tail _ mem, rfl⟩
    · obtain ⟨item', mem, rfl⟩ := ih h
      exact ⟨item', .tail _ mem, rfl⟩

theorem repeatedAll_cons (first : RepeatResponse) (rest : List RepeatResponse) (g : Generator) :
    repeatedAll scene (first :: rest) g =
      let responses := repeated scene first.response (candidates scene first) g
      let more := repeatedAll scene rest responses.2
      (responses.1 ++ more.1, more.2) := by
  rw [repeatedAll]
  rfl

/-- Repeated responses come from a template and one of its candidates. -/
theorem mem_repeatedAll {templates : List RepeatResponse} {g : Generator}
    (h : r ∈ (repeatedAll scene templates g).1) :
    ∃ t ∈ templates, ∃ item ∈ candidates scene t, r = instantiate t.response item := by
  induction templates generalizing g with
  | nil => cases h
  | cons first rest ih =>
    rw [repeatedAll_cons] at h
    rcases List.mem_append.1 h with h | h
    · obtain ⟨item, mem, rfl⟩ := mem_repeated h
      exact ⟨first, .head _, item, mem, rfl⟩
    · obtain ⟨t, mem, found⟩ := ih h
      exact ⟨t, .tail _ mem, found⟩

theorem authored_cons (switched : Bool) (first : Response) (rest : List Response)
    (g : Generator) :
    authored scene switched (first :: rest) g =
      if first.switch && switched then authored scene switched rest g
      else
        let visible := holds scene first.condition none g
        if visible.1 then
          let more :=
            authored scene (switched || (first.switch && !first.default)) rest visible.2
          (first :: more.1, more.2)
        else authored scene switched rest visible.2 := by
  rw [authored]
  split
  · rfl
  · rw [draw_bind]
    dsimp only
    split <;> rfl

/-- Authored responses are among those of the topic. -/
theorem mem_authored {switched : Bool} {responses : List Response} {g : Generator}
    (h : r ∈ (authored scene switched responses g).1) : r ∈ responses := by
  induction responses generalizing switched g with
  | nil => cases h
  | cons first rest ih =>
    rw [authored_cons] at h
    split at h
    · exact .tail _ (ih h)
    · dsimp only at h
      split at h
      · rcases List.mem_cons.1 h with rfl | h
        · exact .head _
        · exact .tail _ (ih h)
      · exact .tail _ (ih h)

/-- A visible response was written for the topic, or stands for one of the items that a repeat
response of the topic is about. -/
theorem mem_visible {t : Topic} {g : Generator} (h : r ∈ (visible scene t g).1) :
    r ∈ t.responses ∨ ∃ template ∈ t.repeatResponses, ∃ item ∈ candidates scene template,
      r = instantiate template.response item := by
  have split : (visible scene t g).1 =
      (repeatedAll scene t.repeatResponses g).1 ++
        (authored scene false t.responses (repeatedAll scene t.repeatResponses g).2).1 := rfl
  rw [split, List.mem_append] at h
  rcases h with h | h
  · exact .inr (mem_repeatedAll h)
  · exact .inl (mem_authored h)

/-- A response on offer is the farewell, or was written for the topic, or stands for one of the
items that a repeat response of the topic is about. -/
theorem mem_generate {s : Session α β} (h : r ∈ s.generate.responses) :
    r = Response.leadingTo s.settings.farewellText endTalk ∨
      ∃ t, s.topic? = some t ∧ (r ∈ t.responses ∨ ∃ template ∈ t.repeatResponses,
        ∃ item ∈ candidates s.scene template, r = instantiate template.response item) := by
  unfold generate at h
  cases ht : s.topic? with
  | none =>
    rw [ht] at h
    exact .inl (List.mem_singleton.1 h)
  | some t =>
    rw [ht] at h
    change r ∈ (if t.replacesBuiltIn && !(visible s.scene t s.encounter.generator).1.isEmpty then
      (visible s.scene t s.encounter.generator).1 else
      (visible s.scene t s.encounter.generator).1 ++ _) at h
    split at h
    · exact .inr ⟨t, rfl, mem_visible h⟩
    · rcases List.mem_append.1 h with h | h
      · exact .inr ⟨t, rfl, mem_visible h⟩
      · exact .inl (List.mem_singleton.1 h)

end Session

end Parley
