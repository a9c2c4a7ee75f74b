import Parley.Console.Basic
import Parley.Proofs.Entering
import Parley.Proofs.Opening

/-!
# Lines at the console

A console reads whenever it waits. Every reading uses up a line, and the one that finds no line
makes the console stop, in whichever conversation and at whichever question it waits. So the input
bounds what the topics do not: how often a choice is refused, how many cycles a conversation goes
through and how many conversations follow each other.
-/

namespace Parley

/-! ### Choices -/

/-- The offers that are shown are those of the session, and there are some; and no choice beyond
them broke the console off. -/
def Phase.Sound : Phase → Prop
  | .choosing session offers => offers.length = session.responses.length ∧ 0 < offers.length
  | .asking _ _ => True
  | .stopped => True
  | .broken fault => ∀ index offered, fault ≠ .noSuchResponse index offered

namespace Console

/-- The choice that a console makes when it gets a line or finds that there are no more, and the
number of offers that it is made from. -/
def picked (c : Console) (line : Option String) : Option (Nat × Nat) :=
  match c.phase, line with
  | .choosing _ offers, some line => (Screen.choice? offers line).map (·, offers.length)
  | .choosing _ offers, none => some (offers.length - 1, offers.length)
  | _, _ => none

variable {c : Console} {session : Session Player Npc} {offers : List Offer}

theorem picked_some (h : c.phase = .choosing session offers) (line : String) :
    c.picked (some line) = (Screen.choice? offers line).map (·, offers.length) := by
  obtain ⟨settings, registry, entropy, phase⟩ := c
  cases h
  rfl

/-- Only what is shown is picked. -/
theorem lt_of_picked (sound : c.phase.Sound) {line : Option String} {index offered : Nat}
    (h : c.picked line = some (index, offered)) : index < offered := by
  obtain ⟨settings, registry, entropy, phase⟩ := c
  cases phase with
  | choosing session offers =>
    cases line with
    | none =>
      cases h
      exact Nat.sub_one_lt_of_lt sound.2
    | some line =>
      obtain ⟨choice, chosen, ⟨⟩⟩ := Option.map_eq_some_iff.1 h
      exact Screen.lt_length_of_choice? chosen
  | asking cast globals => cases h
  | stopped => cases h
  | broken fault => cases h

/-! ### What a line does -/

/-- A choice is applied to the session; a line that makes none leaves the console as it is. -/
theorem feed_choosing (h : c.phase = .choosing session offers) (line : String) :
    c.feed (some line) = match c.picked (some line) with
      | some (index, _) => c.choose session index
      | none => (Screen.refusal ++ Screen.prompt, c) := by
  rw [picked_some h]
  obtain ⟨settings, registry, entropy, phase⟩ := c
  cases h
  dsimp only [feed]
  cases Screen.choice? offers line <;> rfl

/-- The end of the input leaves the conversation. -/
theorem feed_choosing_none (h : c.phase = .choosing session offers) :
    c.feed none = c.leave session offers := by
  obtain ⟨settings, registry, entropy, phase⟩ := c
  cases h
  rfl

/-- Anything but an agreement stops the console. -/
theorem feed_asking {cast : Cast} {globals : Dict String} (h : c.phase = .asking cast globals)
    (line : Option String) : c.feed line =
      if line.any Screen.agrees then c.converse cast globals else ("", c.within .stopped) := by
  obtain ⟨settings, registry, entropy, phase⟩ := c
  cases h
  cases line <;> rfl

/-- A console that waits for nothing takes no notice of input. -/
theorem feed_of_not_waiting (h : c.phase.isWaiting = false) (line : Option String) :
    c.feed line = ("", c) := by
  obtain ⟨settings, registry, entropy, phase⟩ := c
  cases phase with
  | choosing session offers => cases h
  | asking cast globals => cases h
  | stopped => rfl
  | broken fault => rfl

theorem sound_present (c : Console) (session : Session Player Npc) :
    (c.present session).2.phase.Sound :=
  ⟨session.length_opening, session.opening_pos⟩

theorem sound_converse (c : Console) (cast : Cast) (globals : Dict String) :
    (c.converse cast globals).2.phase.Sound := sound_present _ _

/-- To select what is on offer is no fault, or not that one. -/
theorem sound_broken {index : Nat} {fault : Fault} {session' : Session Player Npc}
    (within : index < session.responses.length)
    (h : session.select index = (.error fault, session')) : (Phase.broken fault).Sound := by
  rintro index' offered rfl
  obtain ⟨rfl, rfl, beyond⟩ := Session.select_eq_noSuchResponse.1 (congrArg Prod.fst h)
  exact absurd within (Nat.not_lt.2 beyond)

theorem sound_choose {index : Nat} (within : index < session.responses.length) :
    (c.choose session index).2.phase.Sound := by
  rw [choose]
  split
  · rename_i h
    exact sound_broken within h
  · split
    · trivial
    · exact sound_present c _

/-- Leaving is sound as long as the last offer stands for a response. -/
theorem sound_leave (within : offers.length - 1 < session.responses.length) :
    (c.leave session offers).2.phase.Sound := by
  rw [leave]
  split
  · rename_i h
    exact sound_broken within h
  · trivial

/-- Whatever is read, what is shown next is on offer. -/
theorem sound_feed (sound : c.phase.Sound) (line : Option String) :
    (c.feed line).2.phase.Sound := by
  cases phase : c.phase with
  | choosing session offers =>
    obtain ⟨shown, pos⟩ : offers.length = session.responses.length ∧ 0 < offers.length := by
      rw [phase] at sound
      exact sound
    cases line with
    | none =>
      rw [feed_choosing_none phase]
      exact sound_leave (shown ▸ Nat.sub_one_lt_of_lt pos)
    | some line =>
      rw [feed_choosing phase, picked_some phase]
      cases choice : Screen.choice? offers line with
      | none => exact sound
      | some index => exact sound_choose (shown ▸ Screen.lt_length_of_choice? choice)
  | asking cast globals =>
    rw [feed_asking phase]
    split
    · exact sound_converse c cast globals
    · trivial
  | stopped | broken =>
    rw [feed_of_not_waiting (congrArg Phase.isWaiting phase)]
    exact sound

/-- A console that finds no more lines does not wait any longer. -/
theorem isWaiting_feed_none (c : Console) : (c.feed none).2.phase.isWaiting = false := by
  cases phase : c.phase with
  | choosing session offers =>
    rw [feed_choosing_none phase, leave]
    split <;> rfl
  | asking cast globals =>
    rw [feed_asking phase]
    rfl
  | stopped | broken =>
    have ended := congrArg Phase.isWaiting phase
    rw [feed_of_not_waiting ended]
    exact ended

/-! ### Readings -/

/-- The readings of a console that is allowed a number of them: the console that waited, and the
line that it got. Once the lines are used up a reading finds none, however often it is tried. -/
def readings : Nat → Console → List String → List (Console × Option String)
  | 0, _, _ => []
  | fuel + 1, c, lines =>
    if c.phase.isWaiting then
      (c, lines.head?) :: readings fuel (c.feed lines.head?).2 lines.tail
    else []

/-- What a console writes that is allowed a number of readings, and the console after them. -/
def proceed : Nat → Console → List String → String × Console
  | 0, c, _ => ("", c)
  | fuel + 1, c, lines =>
    if c.phase.isWaiting then
      let (text, c) := c.feed lines.head?
      let (more, c) := proceed fuel c lines.tail
      (text ++ more, c)
    else ("", c)

theorem readings_of_not_waiting (h : c.phase.isWaiting = false) (fuel : Nat)
    (lines : List String) : readings fuel c lines = [] := by
  cases fuel with
  | zero => rfl
  | succ fuel => rw [readings, h, if_neg Bool.false_ne_true]

theorem proceed_of_not_waiting (h : c.phase.isWaiting = false) (fuel : Nat)
    (lines : List String) : proceed fuel c lines = ("", c) := by
  cases fuel with
  | zero => rfl
  | succ fuel => rw [proceed, h, if_neg Bool.false_ne_true]

theorem play_of_not_waiting (h : c.phase.isWaiting = false) (lines : List String) :
    c.play lines = ("", c) := by
  cases lines with
  | nil => rw [play, h, if_neg Bool.false_ne_true]
  | cons line lines => rw [play, h, if_neg Bool.false_ne_true]

/-- The readings get the lines one after another, and then at most once none. -/
theorem map_readings (fuel : Nat) (c : Console) (lines : List String) :
    (readings fuel c lines).map (·.2) <+: lines.map some ++ [none] := by
  induction fuel generalizing c lines with
  | zero => exact List.nil_prefix
  | succ fuel ih =>
    rw [readings]
    split
    · cases lines with
      | nil =>
        rw [List.head?_nil, readings_of_not_waiting c.isWaiting_feed_none]
        exact List.prefix_refl _
      | cons line lines => exact List.cons_prefix_cons.2 ⟨rfl, ih _ lines⟩
    · exact List.nil_prefix

/-- With one reading more than there are lines the console comes to its end. -/
theorem proceed_eq_play {fuel : Nat} {lines : List String} (enough : lines.length < fuel)
    (c : Console) : proceed fuel c lines = c.play lines := by
  induction lines generalizing fuel c with
  | nil =>
    cases fuel with
    | zero => cases enough
    | succ fuel =>
      rw [proceed, play, List.head?_nil]
      split
      · dsimp only
        rw [proceed_of_not_waiting c.isWaiting_feed_none, String.append_empty]
      · rfl
  | cons line lines ih =>
    cases fuel with
    | zero => cases enough
    | succ fuel =>
      rw [proceed, play]
      split
      · dsimp only [List.head?_cons, List.tail_cons]
        rw [ih (Nat.lt_of_succ_lt_succ enough)]
      · rfl

/-- A console to which lines are fed does not wait after the last one. -/
theorem isWaiting_play (c : Console) (lines : List String) :
    (c.play lines).2.phase.isWaiting = false := by
  induction lines generalizing c with
  | nil =>
    rw [play]
    split
    · exact c.isWaiting_feed_none
    · rename_i ended
      exact eq_false_of_ne_true ended
  | cons line lines ih =>
    rw [play]
    split
    · exact ih (c.feed (some line)).2
    · rename_i ended
      exact eq_false_of_ne_true ended

/-- Whatever is read, the console stays sound. -/
theorem sound_proceed (sound : c.phase.Sound) (fuel : Nat) (lines : List String) :
    (proceed fuel c lines).2.phase.Sound := by
  induction fuel generalizing c lines with
  | zero => exact sound
  | succ fuel ih =>
    rw [proceed]
    split
    · exact ih (sound_feed sound _) lines.tail
    · exact sound

/-- Every reading is of a sound console. -/
theorem sound_of_mem_readings {fuel : Nat} {lines : List String} (sound : c.phase.Sound)
    {reading : Console × Option String} (mem : reading ∈ readings fuel c lines) :
    reading.1.phase.Sound := by
  induction fuel generalizing c lines with
  | zero => cases mem
  | succ fuel ih =>
    rw [readings] at mem
    split at mem
    · rcases List.mem_cons.1 mem with rfl | mem
      · exact sound
      · exact ih (sound_feed sound _) mem
    · cases mem

/-! ### Conversations by lines -/

end Console

/-- A presenter that takes its choices from lines, and is closed once it has found no more. -/
structure Keyboard where
  lines : List String
  closed : Bool := false

namespace Keyboard

/-- Try lines until one of them makes a choice. The last offer is left where there are no more. -/
def pick (offers : List Offer) : List String → Nat × Keyboard
  | [] => (offers.length - 1, { lines := [], closed := true })
  | line :: lines => match Screen.choice? offers line with
    | some choice => (choice, { lines })
    | none => pick offers lines

instance : Presenter Keyboard where
  present p _ _ offers := pick offers p.lines
  shouldStop p := p.closed

/-- What a keyboard picks is among the offers. -/
theorem pick_lt {offers : List Offer} (pos : 0 < offers.length) (lines : List String) :
    (pick offers lines).1 < offers.length := by
  induction lines with
  | nil => exact Nat.sub_one_lt_of_lt pos
  | cons line lines ih =>
    rw [pick]
    cases choice : Screen.choice? offers line with
    | some index => exact Screen.lt_length_of_choice? choice
    | none => exact ih

/-- In a cycle a keyboard picks from what the topic opens with. -/
theorem cycle_eq {s : Session Player Npc} {p p' : Keyboard} {choice : Nat}
    (picked : pick s.opening.1.2 p.lines = (choice, p')) :
    s.cycle p = ((s.opening.2.select choice).1, (s.opening.2.select choice).2, p') := by
  change ((s.opening.2.select (pick s.opening.1.2 p.lines).1).1,
    (s.opening.2.select (pick s.opening.1.2 p.lines).1).2, (pick s.opening.1.2 p.lines).2) = _
  rw [picked]

end Keyboard

namespace Console

variable {c : Console}

/-- A console that waits for a choice tries lines as a keyboard does. A choice takes a line; where
there are no more, the conversation is left. -/
theorem play_choosing {session : Session Player Npc} {offers : List Offer}
    (h : c.phase = .choosing session offers) (lines : List String) :
    (∃ choice rest, Keyboard.pick offers lines = (choice, { lines := rest }) ∧
      rest.length < lines.length ∧ (c.play lines).2 = ((c.choose session choice).2.play rest).2) ∨
    (Keyboard.pick offers lines = (offers.length - 1, { lines := [], closed := true }) ∧
      (c.play lines).2 = (c.leave session offers).2) := by
  have waits : c.phase.isWaiting = true := congrArg Phase.isWaiting h
  induction lines with
  | nil =>
    refine .inr ⟨rfl, ?_⟩
    rw [play, if_pos waits, feed_choosing_none h]
  | cons line lines ih =>
    rw [play, if_pos waits, feed_choosing h, picked_some h, Keyboard.pick]
    cases Screen.choice? offers line with
    | some choice => exact .inl ⟨choice, lines, rfl, Nat.lt_succ_self _, rfl⟩
    | none =>
      rcases ih with ⟨choice, rest, picked, shorter, played⟩ | closed
      · exact .inl ⟨choice, rest, picked, Nat.lt_succ_of_lt shorter, played⟩
      · exact .inr closed

/-- The console after a conversation that a keyboard has held: it stops where the keyboard is
closed, and else it asks for another one and goes on with the lines that are left. -/
def afterwards (c : Console) : Ending × Session Player Npc × Keyboard → Console
  | (.broken fault, _, _) => c.within (.broken fault)
  | (_, session, keyboard) =>
    if keyboard.closed then c.within .stopped else ((c.ask session).2.play keyboard.lines).2

/-- A conversation at the console is held by a keyboard with the lines that there are. -/
theorem play_present {session : Session Player Npc} (going : session.done = false)
    {lines : List String} {fuel : Nat} (enough : lines.length < fuel) :
    ((c.present session).2.play lines).2 =
      c.afterwards (session.run fuel ({ lines } : Keyboard)) := by
  induction fuel generalizing session lines with
  | zero => cases enough
  | succ fuel ih =>
    have phase : (c.present session).2.phase =
      .choosing session.opening.2 session.opening.1.2 := rfl
    have open' : Presenter.shouldStop ({ lines } : Keyboard) = false := rfl
    rw [Session.run, going, open', if_neg Bool.false_ne_true, if_neg Bool.false_ne_true]
    rcases play_choosing phase lines with ⟨choice, rest, picked, shorter, played⟩ | ⟨picked, played⟩
    · rw [played, Keyboard.cycle_eq picked, choose]
      rcases session.opening.2.select choice with ⟨fault | next, after⟩
      · exact congrArg Prod.snd (play_of_not_waiting rfl rest)
      · dsimp only
        cases finished : after.done with
        | true =>
          rw [if_pos rfl, Session.run_of_done finished]
          rfl
        | false =>
          rw [if_neg Bool.false_ne_true]
          exact ih finished (by omega)
    · rw [played, Keyboard.cycle_eq picked, leave]
      rcases session.opening.2.select _ with ⟨fault | next, after⟩
      · rfl
      · dsimp only
        cases finished : after.done with
        | true =>
          rw [Session.run_of_done finished]
          rfl
        | false =>
          rw [Session.run_of_shouldStop finished rfl]
          rfl

/-! ### The whole input -/

/-- At most one reading finds no line. -/
theorem length_filter_isNone_le_one (fuel : Nat) (c : Console) (lines : List String) :
    ((readings fuel c lines).filter (·.2.isNone)).length ≤ 1 := by
  have found := ((map_readings fuel c lines).filter Option.isNone).length_le
  have none_of_lines : (lines.map some).filter Option.isNone = [] := by
    rw [List.filter_eq_nil_iff]
    intro line mem
    obtain ⟨_, _, rfl⟩ := List.mem_map.1 mem
    exact Bool.false_ne_true
  rwa [List.filter_map, List.length_map, List.filter_append, none_of_lines] at found

/-- Whatever the settings, the topics and the cast are, a console with `n` lines reads `n + 1` times
at most, in all its conversations together: every line once, and then once that there are no more.
Then it has ended. What it shows is what is on offer; every choice is one of the offers shown, so
none breaks the console off, and after the last line there is at most one. Each conversation is
held as by a keyboard, which chooses among the offers that it is shown. -/
theorem console_ends (settings : TalkSettings) (registry : Registry) (entropy : UInt64)
    (cast : Cast) (globals : Dict String) (lines : List String) (fuel : Nat) :
    let idle : Console := { settings, registry, entropy, phase := .stopped }
    let c := (idle.converse cast globals).2
    let readings := c.readings fuel lines
    readings.map (·.2) <+: lines.map some ++ [none] ∧
      readings.length ≤ lines.length + 1 ∧
      (lines.length < fuel → (c.proceed fuel lines).2.phase.isWaiting = false ∧
        c.proceed fuel lines = c.play lines) ∧
      (∀ reading ∈ readings, ∀ session offers, reading.1.phase = .choosing session offers →
        0 < offers.length ∧ offers.length = session.responses.length) ∧
      (∀ index offered, (index, offered) ∈ readings.filterMap (fun r => r.1.picked r.2) →
        index < offered) ∧
      ((readings.filter (·.2.isNone)).filterMap fun r => r.1.picked r.2).length ≤ 1 ∧
      (∀ index offered,
        (c.proceed fuel lines).2.phase ≠ .broken (.noSuchResponse index offered)) ∧
      (∀ session rest, session.done = false → rest.length < fuel →
        ((c.present session).2.play rest).2 =
          c.afterwards (session.run fuel ({ lines := rest } : Keyboard))) ∧
      ∀ offers rest, 0 < offers.length → (Keyboard.pick offers rest).1 < offers.length := by
  intro idle c readings
  have sound : c.phase.Sound := idle.sound_converse cast globals
  have given := c.map_readings fuel lines
  refine ⟨given, ?_, ?_, ?_, ?_, ?_, ?_, fun _ _ going enough => play_present going enough,
    fun _ rest pos => Keyboard.pick_lt pos rest⟩
  · simpa only [List.length_map, List.length_append, List.length_singleton] using given.length_le
  · intro enough
    rw [proceed_eq_play enough]
    exact ⟨c.isWaiting_play lines, rfl⟩
  · intro reading mem session offers phase
    have shown := sound_of_mem_readings sound mem
    rw [phase] at shown
    exact ⟨shown.2, shown.1⟩
  · intro index offered mem
    obtain ⟨reading, mem, picked⟩ := List.mem_filterMap.1 mem
    exact lt_of_picked (sound_of_mem_readings sound mem) picked
  · exact Nat.le_trans (List.length_filterMap_le _ _) (c.length_filter_isNone_le_one fuel lines)
  · intro index offered broken
    have kept := sound_proceed sound fuel lines
    rw [broken] at kept
    exact kept index offered rfl

/-- Someone mistypes, says goodbye, begins again and is cut short. -/
theorem cut_short_after_last_line :
    let idle : Console := { settings := {}, registry := .empty, entropy := 0, phase := .stopped }
    let c := (idle.converse .strangers .empty).2
    let lines := ["?", "a", "y"]
    lines.length < 4 ∧ (c.proceed 4 lines).2.phase.isWaiting = false ∧
      (c.readings 4 lines).map (·.2) = [some "?", some "a", some "y", none] ∧
      (c, some "?") ∈ c.readings 4 lines ∧
      (∃ session offers, c.phase = .choosing session offers ∧ 0 < offers.length) ∧
      (0, 1) ∈ (c.readings 4 lines).filterMap (fun r => r.1.picked r.2) ∧ 0 < 1 ∧
      (∃ session : Session Player Npc, session.done = false ∧
        ((c.present session).2.play lines).2 =
          c.afterwards (session.run 4 ({ lines } : Keyboard))) ∧
      (∃ offers : List Offer, (Keyboard.pick offers lines).1 < offers.length) := by
  have first (c : Console) (waits : c.phase.isWaiting = true) :
      (c, some "?") ∈ c.readings 4 ["?", "a", "y"] := by
    rw [readings, if_pos waits]
    exact List.mem_cons_self
  have h := console_ends {} .empty 0 .strangers .empty ["?", "a", "y"] 4
  -- The names are put aside: to compare under them would be to run the console.
  dsimp only at h ⊢
  obtain ⟨-, -, ends, shown, offered, -, -, held, within⟩ := h
  exact ⟨by decide, (ends (by decide)).1, by decide +kernel, first _ rfl,
    ⟨_, _, rfl, (shown _ (first _ rfl) _ _ rfl).1⟩, by decide +kernel,
    offered 0 1 (by decide +kernel),
    ⟨.start (.ofSheet (.new "You")) (.ofSheet (.new "Ann")) .empty .empty {} 0, rfl,
      held _ _ rfl (by decide)⟩, ⟨[⟨"Bye.", .plain, 'a'⟩], within _ _ (Nat.zero_lt_succ _)⟩⟩

end Console

end Parley
