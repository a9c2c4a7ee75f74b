import Parley.Proofs.Operation
import Parley.Proofs.Attempts
import Parley.Proofs.Visible

/-!
# Sentinels

Speaker effects may carry a sentinel, a mark that is set with the other speaker once they have been
carried out. The mark is a variable like any other, so content could reset it. Where no effect does,
the speaker effects that carry a sentinel are carried out once at most, in all the conversations
that the speaker ever has, however many topics share the sentinel.
-/

namespace Parley

/-! ### Content that leaves a mark alone -/

/-- An effect neither writes nor removes the mark of a sentinel. -/
def Effect.Spares (sentinel : String) (e : Effect) : Prop :=
  e.kind.written? ≠ some ⟨.npc, SpeakerEffect.sentinelName sentinel⟩

instance (sentinel : String) (e : Effect) : Decidable (e.Spares sentinel) :=
  inferInstanceAs (Decidable (_ ≠ _))

/-- The effects that can come of choosing a response. -/
def Response.effects (r : Response) : List Effect := r.success.effects ++ r.failure.effects

/-- The effects of a topic: those that happen on entering it and those of its responses. -/
def Topic.effects (t : Topic) : List Effect :=
  t.speakerEffects.flatMap (·.effects) ++
    (t.responses ++ t.repeatResponses.map (·.response)).flatMap Response.effects

/-- The effects of all topics. -/
def Registry.effects (r : Registry) : List Effect := r.topics.values.flatMap Topic.effects

theorem Registry.mem_effects {r : Registry} {id : String} {t : Topic} (ht : r.get? id = some t)
    {e : Effect} (mem : e ∈ t.effects) : e ∈ r.effects := by
  have defined : t ∈ r.topics.values := List.mem_map_of_mem (Dict.get?_eq_some_iff.1 ht)
  exact List.mem_flatMap.2 ⟨t, defined, mem⟩

theorem Response.effects_outcome_subset (r : Response) (success : Bool) :
    (r.outcome success).effects ⊆ r.effects := by
  intro e mem
  cases success with
  | true => exact List.mem_append_left _ mem
  | false => exact List.mem_append_right _ mem

/-! ### Marks -/

/-- A variable that an effect does not name keeps its value. -/
theorem EffectKind.Alters.get?_vars {kind : EffectKind} {t : Target} {s s' : Sheet} {name : String}
    (change : kind.Alters t s s') (other : kind.written? ≠ some ⟨t.scope, name⟩) :
    s'.vars.get? name = s.vars.get? name := by
  cases change with
  | kept same => rw [same.vars]
  | @write kind t s vars var named own others =>
    refine others name ?_
    rintro rfl
    rw [← own] at other
    exact other named
  | addEffect | removeEffect | addItem | removeItems | pay | modFatigue | addWet => rfl

namespace Npc

/-- What is stored for the mark of a sentinel. -/
def mark? (sentinel : String) (n : Npc) : Option String :=
  Actor.value? n (SpeakerEffect.sentinelName sentinel)

/-- The mark of a sentinel is set. -/
def Marked (sentinel : String) (n : Npc) : Prop := n.mark? sentinel = some "yes"

/-- A mark is kept on the sheet, and nowhere else. -/
theorem mark?_congr {sentinel : String} {n n' : Npc} (same : n'.sheet = n.sheet) :
    n'.mark? sentinel = n.mark? sentinel := by
  change n'.sheet.vars.get? _ = n.sheet.vars.get? _
  rw [same]

/-- A mark that is set keeps away the speaker effects that carry its sentinel. -/
theorem Marked.isMarked {sentinel : String} {n : Npc} (marked : n.Marked sentinel)
    {e : SpeakerEffect} (carried : e.sentinel = some sentinel) :
    Session.isMarked e n = true := by
  rw [Session.isMarked, SpeakerEffect.sentinelVar, carried]
  exact decide_eq_true marked

/-- What is marked shows the mark. -/
theorem mark?_mark {sentinel : String} {e : SpeakerEffect} (carried : e.sentinel = some sentinel)
    (n : Npc) : (Session.mark e n).mark? sentinel = some "yes" := by
  rw [Session.mark, SpeakerEffect.sentinelVar, carried]
  change (n.sheet.vars.insert _ "yes").get? _ = some "yes"
  rw [Dict.get?_insert, if_pos rfl]

/-- Setting one mark leaves the marks of other sentinels alone. -/
theorem mark?_mark_of_ne {sentinel : String} {e : SpeakerEffect}
    (other : e.sentinel ≠ some sentinel) (n : Npc) :
    (Session.mark e n).mark? sentinel = n.mark? sentinel := by
  rw [Session.mark, SpeakerEffect.sentinelVar]
  cases he : e.sentinel with
  | none => rfl
  | some sentinel' =>
    have ne : SpeakerEffect.sentinelName sentinel ≠ SpeakerEffect.sentinelName sentinel' := by
      intro same
      rw [(String.append_right_inj _).1 same] at other
      exact other he
    change (n.sheet.vars.insert _ "yes").get? _ = n.sheet.vars.get? _
    rw [Dict.get?_insert, if_neg ne]

end Npc

section

variable {α : Type} [Actor α] {sentinel : String}

/-- An effect that spares a mark leaves it alone, also where it fails. -/
theorem Effect.Spares.mark?_attempt {e : Effect} (spares : e.Spares sentinel)
    (enc : Encounter α Npc) :
    (e.attempt enc).2.scene.npc.mark? sentinel = enc.scene.npc.mark? sentinel :=
  e.attempt_preserves (t := .npc)
    (P := fun s => s.vars.get? (SpeakerEffect.sentinelName sentinel) =
      enc.scene.npc.mark? sentinel)
    enc (fun change same => (change.get?_vars spares).trans same) rfl

theorem mark?_attempts {effects : List Effect} (spare : ∀ e ∈ effects, e.Spares sentinel)
    (enc : Encounter α Npc) :
    (effects.forM Effect.attempt enc).2.scene.npc.mark? sentinel =
      enc.scene.npc.mark? sentinel := by
  refine forM_induction (P := fun enc' : Encounter α Npc =>
    enc'.scene.npc.mark? sentinel = enc.scene.npc.mark? sentinel) rfl ?_
  intro e mem enc' same
  exact ((spare e mem).mark?_attempt enc').trans same

end

/-! ### What is carried out -/

namespace Session

variable {α β : Type} [Actor α] [Actor β]

/-- Speaker effects have their turn one after the other. Some are passed over, which may take random
numbers and does nothing else; of the others, which are listed, all effects are attempted, and then
their mark is set. -/
inductive Speaks : List SpeakerEffect → Encounter α β → List SpeakerEffect → Encounter α β → Prop
  | silent (enc : Encounter α β) : Speaks [] enc [] enc
  | passOver {e : SpeakerEffect} {rest done : List SpeakerEffect} {enc enc' : Encounter α β}
      (g : Generator) (later : Speaks rest { enc with generator := g } done enc') :
      Speaks (e :: rest) enc done enc'
  | carryOut {e : SpeakerEffect} {rest done : List SpeakerEffect} {enc spoken enc' : Encounter α β}
      (g : Generator)
      (attempted : (e.effects.forM Effect.attempt { enc with generator := g }).2 = spoken)
      (later : Speaks rest
        { spoken with scene := { spoken.scene with npc := mark e spoken.scene.npc } } done enc') :
      Speaks (e :: rest) enc (e :: done) enc'

/-- The speaker effects of the topic that is being talked about. -/
def turns (s : Session α β) : List SpeakerEffect := (s.topic?.map (·.speakerEffects)).getD []

/-- In a run of operations speaker effects are carried out whenever the speaker speaks, each time
those of the topic that have their turn then. They are listed in order. -/
inductive Carries : List Operation → Session α β → List SpeakerEffect → Session α β → Prop
  | nothing (s : Session α β) : Carries [] s [] s
  | speak {ops : List Operation} {s s' : Session α β} {enc : Encounter α β}
      {done later : List SpeakerEffect} (now : Speaks s.turns s.encounter done enc)
      (rest : Carries ops { s with encounter := enc } later s') :
      Carries (.speak :: ops) s (done ++ later) s'
  | other {op : Operation} {ops : List Operation} {s s' : Session α β}
      {later : List SpeakerEffect} (silent : op ≠ .speak)
      (rest : Carries ops (op.perform s) later s') : Carries (op :: ops) s later s'

/-- The speaker effects that are carried out when all in a list have their turn. -/
def carriedOutOf : List SpeakerEffect → Encounter α β → List SpeakerEffect
  | [], _ => []
  | e :: rest, enc =>
    (if isDue e enc then [e] else []) ++ carriedOutOf rest (speak e enc).2

/-- Those that are due are carried out, each once and in order, and the others are passed over. -/
theorem speaks_carriedOutOf (effects : List SpeakerEffect) (enc : Encounter α β) :
    Speaks effects enc (carriedOutOf effects enc) (effects.forM speak enc).2 := by
  induction effects generalizing enc with
  | nil => exact .silent enc
  | cons e rest ih =>
    change Speaks (e :: rest) enc (carriedOutOf (e :: rest) enc) (rest.forM speak (speak e enc).2).2
    have later := ih (speak e enc).2
    rw [carriedOutOf]
    cases due : isDue e enc with
    | false =>
      obtain ⟨g, passed⟩ := speak_of_not_due due
      rw [passed] at later ⊢
      exact .passOver g later
    | true =>
      obtain ⟨g, spoken, attempted, marked⟩ := speak_of_due due
      rw [marked] at later ⊢
      exact .carryOut g attempted.symm later

/-- The speaker effects that are carried out on entering the topic. -/
def carriedOut (s : Session α β) : List SpeakerEffect := carriedOutOf s.turns s.encounter

theorem applySpeakerEffects_turns (s : Session α β) :
    s.applySpeakerEffects = { s with encounter := (s.turns.forM speak s.encounter).2 } := by
  rw [applySpeakerEffects, turns]
  cases s.topic? <;> rfl

end Session

/-- The speaker effects that an operation carries out. -/
def Operation.carriedOut {α β : Type} [Actor α] [Actor β] (op : Operation) (s : Session α β) :
    List SpeakerEffect :=
  match op with
  | .speak => s.carriedOut
  | _ => []

/-- What a run does is to carry these speaker effects out. -/
theorem Session.carries_performAll {α β : Type} [Actor α] [Actor β] (ops : List Operation)
    (s : Session α β) :
    Carries ops s (during Operation.carriedOut ops s) (performAll ops s) := by
  induction ops generalizing s with
  | nil => exact .nothing s
  | cons op ops ih =>
    have rest := ih (op.perform s)
    cases op with
    | speak =>
      refine .speak (speaks_carriedOutOf s.turns s.encounter) ?_
      rw [← applySpeakerEffects_turns]
      exact rest
    | say | generate | offer | choose | giveReason | setRadio | takeHandoff | attempt | enter =>
      exact .other nofun rest

/-! ### Once at most -/

/-- Of the speaker effects carried out while one state of a speaker became another, one at most
carries the sentinel. The mark is set afterwards if one does, and keeps them all away if it was set
before. -/
structure Npc.OnceAtMost (sentinel : String) (n : Npc) (done : List SpeakerEffect) (n' : Npc) :
    Prop where
  once : done.countP (·.sentinel = some sentinel) ≤ 1
  marks : (∃ e ∈ done, e.sentinel = some sentinel) → n'.Marked sentinel
  stays : n.Marked sentinel → n'.Marked sentinel ∧ ∀ e ∈ done, e.sentinel ≠ some sentinel

namespace Npc.OnceAtMost

variable {sentinel : String} {n n' n'' : Npc} {done done' : List SpeakerEffect}

/-- Nothing is carried out, and the mark is as it was. -/
theorem of_mark?_eq (same : n'.mark? sentinel = n.mark? sentinel) :
    OnceAtMost sentinel n [] n' where
  once := Nat.zero_le 1
  marks := by
    rintro ⟨e, mem, -⟩
    cases mem
  stays marked := ⟨same.trans marked, nofun⟩

/-- The mark that is set in the first part lets nothing through in the second. -/
theorem trans (h : OnceAtMost sentinel n done n') (h' : OnceAtMost sentinel n' done' n'') :
    OnceAtMost sentinel n (done ++ done') n'' where
  once := by
    rw [List.countP_append]
    by_cases before : ∃ e ∈ done, e.sentinel = some sentinel
    · -- The mark is set, so nothing that carries the sentinel follows.
      obtain ⟨-, none⟩ := h'.stays (h.marks before)
      have after : done'.countP (·.sentinel = some sentinel) = 0 := by
        rw [List.countP_eq_zero]
        simpa using none
      rw [after]
      exact h.once
    · have none : done.countP (·.sentinel = some sentinel) = 0 := by
        rw [List.countP_eq_zero]
        simpa using before
      rw [none, Nat.zero_add]
      exact h'.once
  marks := by
    rintro ⟨e, mem, carried⟩
    rcases List.mem_append.1 mem with before | after
    · exact (h'.stays (h.marks ⟨e, before, carried⟩)).1
    · exact h'.marks ⟨e, after, carried⟩
  stays marked := by
    obtain ⟨marked', none⟩ := h.stays marked
    obtain ⟨marked'', none'⟩ := h'.stays marked'
    exact ⟨marked'', List.forall_mem_append.2 ⟨none, none'⟩⟩

end Npc.OnceAtMost

/-! ### Sessions -/

namespace Session

variable {α : Type} [Actor α] {sentinel : String} {s : Session α Npc}

/-- Speaker effects are carried out only while their mark is not set, and then it is. -/
theorem onceAtMost_speak {e : SpeakerEffect} (spare : ∀ e' ∈ e.effects, e'.Spares sentinel)
    (enc : Encounter α Npc) :
    Npc.OnceAtMost sentinel enc.scene.npc (if isDue e enc then [e] else [])
      (speak e enc).2.scene.npc := by
  cases due : isDue e enc with
  | false =>
    obtain ⟨g, h⟩ := speak_of_not_due due
    rw [h]
    exact .of_mark?_eq rfl
  | true =>
    obtain ⟨g, enc', rfl, h⟩ := speak_of_due due
    rw [h]
    have same := mark?_attempts spare { enc with generator := g }
    by_cases carried : e.sentinel = some sentinel
    · constructor
      · exact List.countP_le_length
      · intro _
        exact Npc.mark?_mark carried _
      · -- A speaker effect with a mark that is set would not be due.
        intro marked
        rw [isDue_of_isMarked (marked.isMarked carried)] at due
        contradiction
    · have kept := (Npc.mark?_mark_of_ne carried _).trans same
      constructor
      · exact List.countP_le_length
      · rintro ⟨e', mem, carried'⟩
        rw [List.mem_singleton.1 mem] at carried'
        exact absurd carried' carried
      · intro marked
        exact ⟨kept.trans marked, List.forall_mem_singleton.2 carried⟩

/-- In one pass over a topic, each sentinel lets through one group of effects at most. -/
theorem onceAtMost_carriedOutOf {effects : List SpeakerEffect}
    (spare : ∀ e ∈ effects, ∀ e' ∈ e.effects, e'.Spares sentinel) (enc : Encounter α Npc) :
    Npc.OnceAtMost sentinel enc.scene.npc (carriedOutOf effects enc)
      (effects.forM speak enc).2.scene.npc := by
  induction effects generalizing enc with
  | nil => exact .of_mark?_eq rfl
  | cons e rest ih =>
    have first := onceAtMost_speak (spare e (.head _)) enc
    exact first.trans (ih (fun e' mem => spare e' (.tail _ mem)) (speak e enc).2)

/-- Neither the topics nor the responses on offer have effects on the mark of a sentinel. -/
structure Spares (sentinel : String) (s : Session α Npc) : Prop where
  registry : ∀ e ∈ s.registry.effects, e.Spares sentinel
  responses : ∀ r ∈ s.responses, ∀ e ∈ r.effects, e.Spares sentinel

omit [Actor α] in
theorem Spares.topic? (h : s.Spares sentinel) {t : Topic} (ht : s.topic? = some t) :
    ∀ e ∈ t.effects, e.Spares sentinel := fun e mem => h.registry e (Registry.mem_effects ht mem)

/-- The responses that are offered come from the topics. -/
theorem Spares.generate (h : s.Spares sentinel) : s.generate.Spares sentinel := by
  refine ⟨(Operation.registry_perform .generate s).symm ▸ h.registry, fun r mem e he => ?_⟩
  rcases mem_generate mem with rfl | ⟨t, ht, mem⟩
  · cases he
  · refine h.topic? ht e (List.mem_append_right _ (List.mem_flatMap.2 ?_))
    rcases mem with authored | ⟨template, repeated, item, -, rfl⟩
    · exact ⟨r, List.mem_append_left _ authored, he⟩
    · exact ⟨_, List.mem_append_right _ (List.mem_map_of_mem repeated), he⟩

theorem Spares.perform (h : s.Spares sentinel) (op : Operation) :
    (op.perform s).Spares sentinel := by
  rcases op.responses_perform s with old | rfl
  · refine ⟨(op.registry_perform s).symm ▸ h.registry, fun r mem => ?_⟩
    exact h.responses r (old mem)
  · exact h.generate

theorem mark?_select (h : s.Spares sentinel) (index : Nat) :
    (s.select index).2.scene.npc.mark? sentinel = s.scene.npc.mark? sentinel := by
  cases hr : s.responses[index]? with
  | none => rw [select_of_none hr]
  | some r =>
    have noted : (s.resolve r).2.scene.npc.sheet = s.scene.npc.sheet := by
      have learnt := npc_learn r (s.resolve r).1 (note r s.scene)
      exact (congrArg Npc.sheet learnt).trans (sheet_note r s.scene)
    have spare : ∀ e ∈ (s.decided r).effects, e.Spares sentinel := fun e mem =>
      h.responses r (List.mem_of_getElem? hr) e (r.effects_outcome_subset _ mem)
    have effects : (s.afterEffects r).scene.npc.mark? sentinel = s.scene.npc.mark? sentinel := by
      have attempted := mark?_attempts spare (s.resolve r).2.encounter
      exact attempted.trans (Npc.mark?_congr noted)
    rcases select_cases hr with ⟨fault, -, hs⟩ | ⟨delta, next, scene, -, settled, hs⟩
    · rw [hs]
      exact effects
    · have felt : scene.npc.sheet = (s.afterEffects r).scene.npc.sheet := by
        have same := (s.decided r).sheet_settle delta (s.afterEffects r).scene
        rw [settled] at same
        exact same
      rw [hs, npc_goOn]
      exact (Npc.mark?_congr felt).trans effects

/-- Only to speak carries out speaker effects; nothing else touches the mark. -/
theorem onceAtMost_perform (h : s.Spares sentinel) (op : Operation)
    (outside : ∀ e, op = .attempt e → e.Spares sentinel) :
    Npc.OnceAtMost sentinel s.scene.npc (op.carriedOut s) (op.perform s).scene.npc := by
  cases op with
  | speak =>
    change Npc.OnceAtMost sentinel s.scene.npc s.carriedOut s.applySpeakerEffects.scene.npc
    rw [carriedOut, applySpeakerEffects_turns]
    refine onceAtMost_carriedOutOf (fun speaker mem e he => ?_) s.encounter
    rw [turns] at mem
    cases ht : s.topic? with
    | none =>
      rw [ht] at mem
      cases mem
    | some t =>
      rw [ht] at mem
      exact h.topic? ht e (List.mem_append_left _ (List.mem_flatMap.2 ⟨speaker, mem, he⟩))
  | choose index => exact .of_mark?_eq (mark?_select h index)
  | attempt e => exact .of_mark?_eq ((outside e rfl).mark?_attempt s.encounter)
  | say =>
    obtain ⟨g, hs⟩ := s.line_eq
    refine .of_mark?_eq ?_
    change s.line.2.scene.npc.mark? sentinel = _
    rw [hs]
    rfl
  | generate =>
    obtain ⟨g, responses, hs⟩ := s.generate_eq
    refine .of_mark?_eq ?_
    change s.generate.scene.npc.mark? sentinel = _
    rw [hs]
    rfl
  | offer | giveReason | setRadio | takeHandoff | enter => exact .of_mark?_eq rfl

/-- Along a run, each sentinel lets through one group of effects at most. -/
theorem onceAtMost_performAll (h : s.Spares sentinel) {ops : List Operation}
    (outside : ∀ e, .attempt e ∈ ops → e.Spares sentinel) :
    Npc.OnceAtMost sentinel s.scene.npc (during Operation.carriedOut ops s)
      (performAll ops s).scene.npc := by
  induction ops generalizing s with
  | nil => exact .of_mark?_eq rfl
  | cons op ops ih =>
    have first := onceAtMost_perform h op fun e he => outside e (he ▸ .head _)
    exact first.trans (ih (h.perform op) fun e mem => outside e (.tail _ mem))

end Session

/-! ### Histories -/

/-- A conversation with a speaker: who leads it, in what world and about what, from which state of
the random generator, and what is done in it. -/
structure Meeting (α : Type) where
  u : α
  globals : Dict String
  registry : Registry
  settings : TalkSettings
  generator : Generator
  ops : List Operation

namespace Meeting

variable {α : Type} [Actor α]

/-- The conversation as it begins. -/
def opening (m : Meeting α) (n : Npc) : Session α Npc :=
  (Session.start m.u n m.globals m.registry m.settings 0).withGenerator m.generator

/-- The speaker after the conversation. -/
def after (m : Meeting α) (n : Npc) : Npc := (Session.performAll m.ops (m.opening n)).scene.npc

/-- The speaker effects that are carried out in conversations one after the other. -/
def carriedOut : List (Meeting α) → Npc → List SpeakerEffect
  | [], _ => []
  | m :: ms, n =>
    Session.during Operation.carriedOut m.ops (m.opening n) ++ carriedOut ms (m.after n)

/-- The speaker after conversations one after the other. -/
def afterAll (ms : List (Meeting α)) (n : Npc) : Npc := ms.foldl (fun n m => m.after n) n

/-- Conversations take place one after the other. The speaker effects that are carried out in them
are listed in order. -/
inductive TakePlace : List (Meeting α) → Npc → List SpeakerEffect → Npc → Prop
  | nothing (n : Npc) : TakePlace [] n [] n
  | talk {m : Meeting α} {ms : List (Meeting α)} {n n' : Npc} {s : Session α Npc}
      {done later : List SpeakerEffect} (now : Session.Carries m.ops (m.opening n) done s)
      (rest : TakePlace ms s.scene.npc later n') : TakePlace (m :: ms) n (done ++ later) n'

/-- The list of what is carried out is one that the meetings come to. -/
theorem takePlace_carriedOut (ms : List (Meeting α)) (n : Npc) :
    TakePlace ms n (carriedOut ms n) (afterAll ms n) := by
  induction ms generalizing n with
  | nil => exact .nothing n
  | cons m ms ih => exact .talk (Session.carries_performAll m.ops (m.opening n)) (ih (m.after n))

/-- No effect of the topics, or from outside, writes or removes the mark of a sentinel. -/
def Spares (sentinel : String) (m : Meeting α) : Prop :=
  (∀ e ∈ m.registry.effects, e.Spares sentinel) ∧ ∀ e, .attempt e ∈ m.ops → e.Spares sentinel

/-- Over all meetings with one speaker, each sentinel lets through one group of effects at most. -/
theorem onceAtMost {sentinel : String} {ms : List (Meeting α)}
    (spare : ∀ m ∈ ms, m.Spares sentinel) (n : Npc) :
    n.OnceAtMost sentinel (carriedOut ms n) (afterAll ms n) := by
  induction ms generalizing n with
  | nil => exact .of_mark?_eq rfl
  | cons m ms ih =>
    obtain ⟨content, outside⟩ := spare m (.head _)
    have start : (m.opening n).Spares sentinel := by
      refine ⟨content, fun r mem => ?_⟩
      change r ∈ [] at mem
      cases mem
    have first := Session.onceAtMost_performAll start outside
    exact first.trans (ih (fun m' mem => spare m' (.tail _ mem)) (m.after n))

end Meeting

/-- Over any conversations that a speaker has one after the other, speaker effects that carry a
sentinel are carried out once at most, if no effect writes or removes the mark of the sentinel: the
conversations take place in such a way that just the listed speaker effects are carried out, and one
of them at most carries it. Once one has been, the mark is set; and while it is set, none of them is
carried out and it stays. -/
theorem Npc.sentinel_fires_once {α : Type} [Actor α] (n : Npc) (sentinel : String)
    (meetings : List (Meeting α)) (spare : ∀ m ∈ meetings, m.Spares sentinel) :
    let done := Meeting.carriedOut meetings n
    let mark (n : Npc) := Actor.value? n (SpeakerEffect.sentinelName sentinel)
    Meeting.TakePlace meetings n done (Meeting.afterAll meetings n) ∧
      done.countP (·.sentinel = some sentinel) ≤ 1 ∧
      ((∃ e ∈ done, e.sentinel = some sentinel) →
        mark (Meeting.afterAll meetings n) = some "yes") ∧
      (mark n = some "yes" → mark (Meeting.afterAll meetings n) = some "yes" ∧
        ∀ e ∈ done, e.sentinel ≠ some sentinel) := by
  intro done mark
  have history := Meeting.onceAtMost spare n
  exact ⟨Meeting.takePlace_carriedOut meetings n, history.once, history.marks, history.stays⟩

/-- A gift that two topics promise twice each is made once in two visits: the first visitor leaves
with one coin and the second one with none. -/
theorem Npc.gift_made_once :
    let gift : SpeakerEffect :=
      ⟨none, [⟨.spawnItem "coin" "money" (.single (.literal 1)), .u⟩], some "gift"⟩
    let topic (id next : String) : Topic :=
      { Topic.new id with
        speakerEffects := [gift, gift], responses := [.leadingTo "And else?" next] }
    let visit : Meeting Player :=
      { u := .ofSheet (.new "Bob"), globals := .empty
        registry := (Registry.empty.insert (topic "TALK" "NEWS")).insert (topic "NEWS" "TALK")
        settings := { firstTopic := "TALK" }, generator := .ofSeed 0
        ops := [.speak, .generate, .choose 0, .speak, .speak] }
    let npc := Npc.ofSheet (.new "Ann")
    let coins (n : Npc) :=
      (Session.performAll visit.ops (visit.opening n)).scene.u.sheet.inventory.map
        fun item => (item.type, item.count)
    (∀ m ∈ [visit, visit], m.Spares "gift") ∧ (Meeting.carriedOut [visit, visit] npc).length = 1 ∧
      Meeting.TakePlace [visit, visit] npc (Meeting.carriedOut [visit, visit] npc)
        (Meeting.afterAll [visit, visit] npc) ∧
      (Meeting.carriedOut [visit, visit] npc).countP (·.sentinel = some "gift") ≤ 1 ∧
      coins npc = [("coin", 1)] ∧ coins (visit.after npc) = [] ∧
      Actor.value? (Meeting.afterAll [visit, visit] npc) "npctalk_var_sentinel_gift" =
        some "yes" := by
  intro gift topic visit npc coins
  have spare : ∀ m ∈ [visit, visit], m.Spares "gift" := by
    intro m mem
    obtain rfl : m = visit := by simpa using mem
    refine ⟨by decide +kernel, fun e outside => ?_⟩
    simp [visit] at outside
  obtain ⟨history, once, marks, -⟩ := sentinel_fires_once npc "gift" [visit, visit] spare
  have made : ∃ e ∈ Meeting.carriedOut [visit, visit] npc, e.sentinel = some "gift" := by
    decide +kernel
  exact ⟨spare, by decide +kernel, history, once, by decide +kernel, by decide +kernel, marks made⟩

end Parley
