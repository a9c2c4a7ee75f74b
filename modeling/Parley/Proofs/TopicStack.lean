import Mathlib.Data.List.Induction
import Parley.Proofs.Faults
import Parley.Proofs.Looking

/-!
# The stack of topics

The topics that were entered form a stack; its top is the topic that is talked about. The stack
begins with the first topic of the settings and never shrinks: an operation adds one entry at most,
and of those that are there it changes the reason of the top and nothing else. So what a topic is
about, and why, comes from the operation that entered it and from the reasons given since.
-/

namespace Parley

variable {α β : Type}

/-! ### One operation -/

theorem Scene.dropLast_entries (s : Scene α β) : s.entries.dropLast = s.earlier.reverse :=
  List.dropLast_concat

/-- The stack is its top on what lies below. -/
theorem Scene.entries_eq (s : Scene α β) : s.entries = s.entries.dropLast ++ [s.current] := by
  rw [dropLast_entries]
  rfl

variable [Actor α] [Actor β]

/-- The entries that choosing a response adds to the stack, by what the choice led to. -/
def Response.entered (r : Response) : Except Fault String → List Entry
  | .ok next => if next = endTalk ∨ next = stayHere then [] else [{ id := next, item := r.item }]
  | .error _ => []

namespace Operation

/-- The entries that an operation adds to the stack. -/
def entered (op : Operation) (s : Session α β) : List Entry :=
  match op with
  | .choose index => match s.responses[index]? with
    | some r => r.entered (s.select index).1
    | none => []
  | .enter entry => [entry]
  | _ => []

/-- A choice enters what its response leads to. -/
theorem entered_choose {s : Session α β} {index : Nat} {r : Response}
    (h : s.responses[index]? = some r) :
    (Operation.choose index).entered s = r.entered (s.select index).1 := by
  change (match s.responses[index]? with
    | some r => r.entered (s.select index).1
    | none => []) = _
  rw [h]

theorem entered_choose_of_none {s : Session α β} {index : Nat} (h : s.responses[index]? = none) :
    (Operation.choose index).entered s = [] := by
  change (match s.responses[index]? with
    | some r => r.entered (s.select index).1
    | none => []) = _
  rw [h]

/-- An operation enters one topic at most. -/
theorem entered_cases (op : Operation) (s : Session α β) :
    op.entered s = [] ∨ ∃ entry, op.entered s = [entry] := by
  cases op with
  | choose index =>
    cases hr : s.responses[index]? with
    | none => exact .inl (entered_choose_of_none hr)
    | some r =>
      rw [entered_choose hr]
      cases (s.select index).1 with
      | error fault => exact .inl rfl
      | ok next =>
        rw [Response.entered]
        split
        · exact .inl rfl
        · exact .inr ⟨_, rfl⟩
  | enter entry => exact .inr ⟨entry, rfl⟩
  | _ => exact .inl rfl

/-- The reason that an operation gives for talking about the topic. -/
def reason? : Operation → Option String
  | .giveReason reason => some reason
  | _ => none

end Operation

/-- The entry with the last of the reasons that operations give, if they give one. -/
def Entry.explained (entry : Entry) (ops : List Operation) : Entry :=
  { entry with reason := (ops.filterMap Operation.reason?).getLast?.getD entry.reason }

theorem Entry.explained_concat (entry : Entry) (ops : List Operation) (op : Operation) :
    entry.explained (ops ++ [op]) = (entry.explained ops).explained [op] := by
  cases op <;> simp [explained, Operation.reason?]

/-- Choosing a response adds the topic that it enters to the stack, if any. -/
theorem Session.entries_select {s : Session α β} {index : Nat} {r : Response}
    (h : s.responses[index]? = some r) :
    (s.select index).2.scene.entries = s.scene.entries ++ r.entered (s.select index).1 := by
  rcases select_entries h with ⟨fault, -, broken, same⟩ | ⟨next, chosen, cases⟩
  · rw [broken, same]
    exact (List.append_nil _).symm
  · rw [chosen, Response.entered]
    rcases cases with ⟨rfl, -, -, same⟩ | ⟨rfl, -, same⟩ | ⟨on, goes, -, more⟩
    · rw [same, if_pos (.inl rfl), List.append_nil]
    · rw [same, if_pos (.inr rfl), List.append_nil]
    · rw [more, if_neg (not_or.2 ⟨on, goes⟩)]

/-- An operation leaves what lies below the top as it is, gives the top a reason if it gives one,
and puts on it what it enters. -/
theorem Operation.entries_perform (op : Operation) (s : Session α β) :
    (op.perform s).scene.entries =
      s.scene.entries.dropLast ++ s.scene.current.explained [op] :: op.entered s := by
  have same := s.scene.entries_eq
  cases op with
  | speak => exact s.applySpeakerEffects_framed.entries.trans same
  | say =>
    obtain ⟨g, h⟩ := s.line_eq
    change s.line.2.scene.entries = _
    rw [h]
    exact same
  | generate =>
    obtain ⟨g, responses, h⟩ := s.generate_eq
    change s.generate.scene.entries = _
    rw [h]
    exact same
  | choose index =>
    change (s.select index).2.scene.entries = _
    cases hr : s.responses[index]? with
    | none =>
      rw [Session.select_of_none hr, entered_choose_of_none hr]
      exact same
    | some r =>
      rw [Session.entries_select hr, entered_choose hr, List.append_cons]
      exact congrArg (· ++ r.entered _) same
  | attempt e => exact (e.attempt_framed s.encounter).entries.trans same
  | giveReason reason =>
    rw [s.scene.dropLast_entries]
    rfl
  | enter entry =>
    have more := (s.entries_enter entry).trans (congrArg (· ++ [entry]) same)
    exact more.trans (List.append_cons ..).symm
  | offer | takeHandoff | setRadio => exact same

/-- What lies below the top of the stack still lies there after an operation. -/
theorem Operation.dropLast_entries_perform (op : Operation) (s : Session α β) :
    s.scene.entries.dropLast <+: (op.perform s).scene.entries.dropLast := by
  rw [op.entries_perform s, List.dropLast_append_of_ne_nil (List.cons_ne_nil _ _)]
  exact List.prefix_append _ _

namespace Session

/-! ### Runs -/

/-- What is below the top of the stack stays there along a run. -/
theorem dropLast_entries_performAll (ops : List Operation) (s : Session α β) :
    s.scene.entries.dropLast <+: (performAll ops s).scene.entries.dropLast := by
  refine performAll_induction (P := fun s' : Session α β =>
    s.scene.entries.dropLast <+: s'.scene.entries.dropLast) (List.prefix_refl _) ?_
  intro op _ s' below
  exact below.trans (op.dropLast_entries_perform s')

/-- Only the reason of the first entry can change. -/
theorem head_entries_perform (op : Operation) {s : Session α β} {first : Entry}
    {rest : List Entry} (h : s.scene.entries = first :: rest) :
    ∃ reason rest', (op.perform s).scene.entries = { first with reason } :: rest' := by
  have step := op.entries_perform s
  rw [h] at step
  cases rest with
  | nil =>
    -- The first entry is the top.
    have alone : s.scene.entries = [] ++ [first] := h
    obtain rfl := current_of_entries alone
    exact ⟨_, _, step⟩
  | cons next rest => exact ⟨first.reason, _, step⟩

/-- The first entry stays in its place, and only its reason can change. -/
theorem head_entries_performAll (ops : List Operation) {s : Session α β} {first : Entry}
    {rest : List Entry} (h : s.scene.entries = first :: rest) :
    ∃ reason rest', (performAll ops s).scene.entries = { first with reason } :: rest' := by
  refine performAll_induction (P := fun s' : Session α β =>
    ∃ reason rest', s'.scene.entries = { first with reason } :: rest')
    ⟨first.reason, rest, h⟩ ?_
  rintro op _ s' ⟨reason, rest', h'⟩
  obtain ⟨reason', rest'', step⟩ := head_entries_perform op h'
  exact ⟨reason', rest'', step⟩

/-! ### Where the top comes from -/

/-- Operations end with one that enters `entry`, or there are none and it is the top already. -/
def Enters (s : Session α β) (ops : List Operation) (entry : Entry) : Prop :=
  ops = [] ∧ s.scene.current = entry ∨
    ∃ before op, ops = before ++ [op] ∧ op.entered (performAll before s) = [entry]

/-- After an operation the top is what it entered, or else the old top with the reason it gave. -/
theorem current_perform (op : Operation) (s : Session α β) :
    op.entered s = [] ∧ (op.perform s).scene.current = s.scene.current.explained [op] ∨
      ∃ entry, op.entered s = [entry] ∧ (op.perform s).scene.current = entry := by
  have step := op.entries_perform s
  rcases op.entered_cases s with none | ⟨entry, one⟩
  · rw [none] at step
    exact .inl ⟨none, current_of_entries step⟩
  · rw [one, List.append_cons] at step
    exact .inr ⟨entry, one, current_of_entries step⟩

/-- The top of the stack was entered by some operation, or was there from the start, and has changed
since by the reasons that were given for it, of which the last one counts. -/
theorem current_performAll (ops : List Operation) (s : Session α β) :
    ∃ before after entry, ops = before ++ after ∧ s.Enters before entry ∧
      during Operation.entered after (performAll before s) = [] ∧
      (performAll ops s).scene.current = entry.explained after := by
  -- The operations are added at the end, for the last one decides what the top is.
  induction ops using List.reverseRecOn with
  | nil => exact ⟨[], [], s.scene.current, rfl, .inl ⟨rfl, rfl⟩, rfl, rfl⟩
  | append_singleton ops op ih =>
    obtain ⟨before, after, entry, rfl, enters, none, top⟩ := ih
    rw [performAll_append]
    rcases current_perform op (performAll (before ++ after) s) with
      ⟨still, same⟩ | ⟨entry', one, new⟩
    · refine ⟨before, after ++ [op], entry, List.append_assoc .., enters, ?_, ?_⟩
      · rw [during_append, none, ← performAll_append]
        exact (List.append_nil _).trans still
      · rw [Entry.explained_concat, ← top]
        exact same
    · refine ⟨before ++ after ++ [op], [], entry', (List.append_nil _).symm, ?_, rfl, new⟩
      exact .inr ⟨before ++ after, op, rfl, one⟩

/-! ### The stack of a conversation -/

/-- What a choice comes to if it comes back: it ends the conversation, stays on the topic, or puts
one entry on the stack, which is about the item of the response. -/
def Moves (s : Session α β) (r : Response) (next : String) (s' : Session α β) : Prop :=
  next = endTalk ∧ s'.done = true ∧ s'.responses = [] ∧ s'.scene.entries = s.scene.entries ∨
    next = stayHere ∧ s'.done = s.done ∧ s'.scene.entries = s.scene.entries ∨
    next ≠ endTalk ∧ next ≠ stayHere ∧ s'.done = s.done ∧
      s'.scene.entries = s.scene.entries ++ [⟨next, r.item, ""⟩]

/-- A choice that overflows breaks off: the stack and what is on offer are as they were. -/
theorem select_of_overflows {s : Session α β} {index : Nat}
    (overflows : (Operation.choose index).Overflows s) :
    (s.select index).1 = .error .quotientOverflow ∧ (s.select index).2.done = s.done ∧
      (s.select index).2.responses = s.responses ∧
      (s.select index).2.scene.entries = s.scene.entries := by
  obtain ⟨_, r, ⟨⟩, hr, part, value⟩ := overflows
  rcases select_cases hr with ⟨fault, broken, hs⟩ | ⟨delta, next, scene, fits, -, -⟩
  · obtain ⟨rfl, -⟩ := Outcome.opinionChange_eq_error.1 broken
    rw [hs]
    exact ⟨rfl, rfl, rfl, (s.afterEffects_framed r).entries⟩
  · cases fits.symm.trans (Outcome.opinionChange_eq_error.2 ⟨rfl, value, part⟩)

/-- A choice comes back exactly if it does not overflow. -/
theorem select_moves_iff {s : Session α β} {index : Nat} {r : Response}
    (hr : s.responses[index]? = some r) :
    (∃ next, (s.select index).1 = .ok next ∧ s.Moves r next (s.select index).2) ↔
      ¬(Operation.choose index).Overflows s := by
  constructor
  · rintro ⟨next, chosen, -⟩ overflows
    cases chosen.symm.trans (select_of_overflows overflows).1
  · intro fits
    rcases select_entries hr with ⟨fault, broken, -, -⟩ | ⟨next, chosen, moved⟩
    · obtain ⟨-, value, part⟩ := Outcome.opinionChange_eq_error.1 broken
      exact (fits ⟨index, r, rfl, hr, part, value⟩).elim
    · exact ⟨next, chosen, moved⟩

/-- In every state that operations lead to, the stack begins with the first topic of the settings,
and what lies below its top stays as it is whatever comes next. A choice ends the conversation,
stays on the topic or puts one entry on the stack exactly if it does not overflow; where it does, it
breaks off and the stack is as it was. A reason is given to the top; a topic that is entered
otherwise comes without an item and a reason. So the item and the reason of the top are those with
which it was entered, except for reasons that were given while it was the top. -/
theorem topics_form_stack (u : α) (npc : β) (globals : Dict String) (registry : Registry)
    (settings : TalkSettings) (entropy : UInt64) (generator : Generator)
    (ops more : List Operation) :
    let first := (start u npc globals registry settings entropy).withGenerator generator
    let s := performAll ops first
    (∃ reason rest, s.scene.entries = ⟨settings.firstTopic, none, reason⟩ :: rest) ∧
      s.scene.entries.dropLast <+: (performAll more s).scene.entries.dropLast ∧
      (∀ op : Operation, (op.perform s).scene.entries =
        s.scene.entries.dropLast ++ s.scene.current.explained [op] :: op.entered s) ∧
      (∀ index r, s.responses[index]? = some r →
        ((∃ next, (s.select index).1 = .ok next ∧ s.Moves r next (s.select index).2) ↔
            ¬(Operation.choose index).Overflows s) ∧
          ((Operation.choose index).Overflows s →
            (s.select index).1 = .error .quotientOverflow ∧ (s.select index).2.done = s.done ∧
              (s.select index).2.responses = s.responses ∧
              (s.select index).2.scene.entries = s.scene.entries)) ∧
      (∀ index, s.responses.length ≤ index →
        s.select index = (.error (.noSuchResponse index s.responses.length), s)) ∧
      (∀ reason, (s.setReason reason).scene.entries =
        s.scene.entries.dropLast ++ [{ s.scene.current with reason }]) ∧
      (∀ id, (s.enter { id }).scene.entries = s.scene.entries ++ [⟨id, none, ""⟩]) ∧
      (∀ id, (s.lineAbout id).2.scene = s.scene) ∧
      ∃ before after entry, ops = before ++ after ∧ first.Enters before entry ∧
        during Operation.entered after (performAll before first) = [] ∧
        s.scene.current = entry.explained after := by
  intro first s
  have fresh : first.scene.entries = [⟨settings.firstTopic, none, ""⟩] := rfl
  refine ⟨head_entries_performAll ops fresh, dropLast_entries_performAll more s,
    fun op => op.entries_perform s, fun _ _ hr => ⟨select_moves_iff hr, select_of_overflows⟩,
    ?_, ?_, fun id => s.entries_enter { id }, ?_, current_performAll ops first⟩
  · intro index beyond
    exact select_of_none (List.getElem?_eq_none beyond)
  · intro reason
    exact Operation.entries_perform (.giveReason reason) s
  · intro id
    obtain ⟨g, h⟩ := s.lineAbout_eq id
    rw [h]
    rfl

/-- The rope that someone is asked about, and why it is refused, are forgotten on the next topic. -/
theorem rope_left_behind :
    let offer : RepeatResponse :=
      ⟨["rope"], [], false, false, .leadingTo "What about my <topic_item>?" "TRADE"⟩
    let registry := Registry.empty.insertAll
      [{ Topic.new "TALK" with repeatResponses := [offer] },
        (Topic.new "TRADE").withResponse (.leadingTo "Let us talk." "TALK")]
    let u : Player :=
      .ofSheet { Sheet.new "Bob" with inventory := [.plain "rope" "tools" 1] }
    let ops : List Operation := [.generate, .choose 0, .giveReason "It is worn.", .generate]
    let s := performAll ops ((start u (Npc.ofSheet (.new "Ann")) .empty registry
      { firstTopic := "TALK" } 0).withGenerator (.ofSeed 1))
    s.scene.entries = [⟨"TALK", none, ""⟩, ⟨"TRADE", some "rope", "It is worn."⟩] ∧
      (performAll [.choose 0] s).scene.entries =
        [⟨"TALK", none, ""⟩, ⟨"TRADE", some "rope", "It is worn."⟩, ⟨"TALK", none, ""⟩] ∧
      s.scene.entries.dropLast <+: (performAll [.choose 0] s).scene.entries.dropLast ∧
      s.responses.length ≤ 2 ∧ (s.select 2).1 = .error (.noSuchResponse 2 s.responses.length) ∧
      ∃ r next, s.responses[0]? = some r ∧ (s.select 0).1 = .ok next ∧
        s.Moves r next (s.select 0).2 := by
  intro offer registry u ops s
  obtain ⟨-, below, -, choice, refused, -⟩ := topics_form_stack u (Npc.ofSheet (.new "Ann"))
    .empty registry { firstTopic := "TALK" } 0 (.ofSeed 1) ops [.choose 0]
  have few : s.responses.length ≤ 2 := by decide +kernel
  refine ⟨by decide +kernel, by decide +kernel, below, few,
    congrArg Prod.fst (refused 2 few), ?_⟩
  have peaceful : (s.responses[0]?).any (fun r => -1 ∉ (s.decided r).missionOpinion.parts) =
      true := by
    decide +kernel
  obtain ⟨r, hr, spared⟩ := (Option.any_eq_true _ _).1 peaceful
  have fits : ¬(Operation.choose 0).Overflows s := by
    rintro ⟨_, r', ⟨⟩, hr', part, -⟩
    obtain rfl : r = r' := Option.some.inj (hr.symm.trans hr')
    exact of_decide_eq_true spared part
  obtain ⟨next, chosen, moved⟩ := (choice 0 r hr).1.2 fits
  exact ⟨r, next, hr, chosen, moved⟩

/-- A response that leads on is chosen, but its outcome divides the least value of a mission by
minus one. The choice leads nowhere, neither on nor out, and the response is still on offer. -/
theorem least_value_leads_nowhere :
    let missionOpinion : Opinion := { Opinion.zero with trust := -1 }
    let r : Response := { text := "Well?", success := { nextTopic := "NEWS", missionOpinion } }
    let topic : Topic := { Topic.new "TALK" with replace? := some true, responses := [r] }
    let npc : Npc :=
      { (Npc.ofSheet (.new "Ann")).withMission "job" Int32.minValue with
        selectedMission := some "job" }
    let s : Session Player Npc := performAll [.generate]
      ((start (.ofSheet (.new "Bob")) npc .empty (Registry.empty.insertAll [topic])
        { firstTopic := "TALK" } 0).withGenerator (.ofSeed 1))
    s.responses = [r] ∧ (s.select 0).1 = .error .quotientOverflow ∧
      (s.select 0).2.done = false ∧ (s.select 0).2.responses = [r] ∧
      (s.select 0).2.scene.entries = [⟨"TALK", none, ""⟩] := by
  exact ⟨rfl, by decide +kernel, by decide +kernel, rfl, by decide +kernel⟩

end Session

end Parley
