import Parley.Proofs.Opening
import Parley.Proofs.Visible

/-!
# Places

When the responses of a topic are offered, its authored responses are gone through from the first
to the last. Each stands at a place, and `isOffered` says whether the response at a place comes to
be offered: its condition has to hold when its turn comes, and for a switch response no response
that settles the switch must have been offered before (`isOffered_iff`).
-/

namespace Parley

/-- Does a response, once it is offered, keep later switch responses from being offered? -/
def Response.settles (r : Response) : Bool := r.switch && !r.default

namespace Topic

/-- Is the authored response at a place a switch response? -/
def switchAt (t : Topic) (place : Nat) : Bool := t.responses[place]?.any (·.switch)

/-- Does the authored response at a place settle the switch? -/
def settlesAt (t : Topic) (place : Nat) : Bool := t.responses[place]?.any Response.settles

/-- The authored responses at some places. -/
def responsesAt (t : Topic) (places : List Nat) : List Response :=
  places.filterMap (t.responses[·]?)

variable {t : Topic} {place : Nat} {r : Response}

theorem switchAt_eq (hr : t.responses[place]? = some r) : t.switchAt place = r.switch := by
  rw [switchAt, hr, Option.any_some]

theorem settlesAt_eq (hr : t.responses[place]? = some r) : t.settlesAt place = r.settles := by
  rw [settlesAt, hr, Option.any_some]

theorem switchAt_of_settlesAt (h : t.settlesAt place = true) : t.switchAt place = true := by
  obtain ⟨r, hr, settles⟩ := (Option.any_eq_true _ _).1 h
  rw [switchAt_eq hr]
  exact (Bool.and_eq_true_iff.1 settles).1

theorem mem_responsesAt {places : List Nat} :
    r ∈ t.responsesAt places ↔ ∃ place ∈ places, t.responses[place]? = some r :=
  List.mem_filterMap

end Topic

namespace Session

variable {α β : Type} [Actor α] [Actor β]

/-- Responses may be gone through in two parts, the second with the switch settled if a response
of the first part that is offered has settled it. -/
theorem authored_append (scene : Scene α β) (switched : Bool) (first rest : List Response)
    (g : Generator) :
    authored scene switched (first ++ rest) g =
      let before := authored scene switched first g
      let after := authored scene (switched || before.1.any Response.settles) rest before.2
      (before.1 ++ after.1, after.2) := by
  induction first generalizing switched g with
  | nil =>
    rw [List.nil_append]
    change _ = authored scene (switched || false) rest g
    rw [Bool.or_false]
  | cons r first ih =>
    rw [List.cons_append, authored_cons, authored_cons]
    split
    · exact ih switched g
    · dsimp only
      split
      · rw [ih]
        simp only [List.any_cons, List.cons_append, Bool.or_assoc, Response.settles]
      · exact ih switched _

theorem authored_singleton (scene : Scene α β) (switched : Bool) (r : Response) (g : Generator) :
    (authored scene switched [r] g).1 =
      if !(r.switch && switched) && (holds scene r.condition none g).1 then [r] else [] := by
  rw [authored_cons]
  cases r.switch && switched with
  | true => rfl
  | false =>
    dsimp only
    cases (holds scene r.condition none g).1 <;> rfl

/-- Of the authored responses before a place: those that are offered, and the random generator
after their conditions were looked at. -/
def before (s : Session α β) (t : Topic) (place : Nat) : List Response × Generator :=
  authored s.scene false (t.responses.take place)
    (repeatedAll s.scene t.repeatResponses s.encounter.generator).2

/-- Does the condition of the authored response at a place hold when its turn comes? -/
def isFit (s : Session α β) (t : Topic) (place : Nat) : Bool :=
  t.responses[place]?.any fun r => (holds s.scene r.condition none (s.before t place).2).1

/-- Is there one more response on offer after the one at a place than before it? -/
def isOffered (s : Session α β) (t : Topic) (place : Nat) : Bool :=
  (s.before t place).1.length < (s.before t (place + 1)).1.length

/-- The places of a topic whose authored responses are offered, in ascending order. -/
def offeredPlaces (s : Session α β) (t : Topic) : List Nat :=
  (List.range t.responses.length).filter (s.isOffered t)

variable (s : Session α β) (t : Topic)

/-- Going on by one place. -/
theorem before_succ {place : Nat} {r : Response} (hr : t.responses[place]? = some r) :
    (s.before t (place + 1)).1 = (s.before t place).1 ++
      if !(r.switch && (s.before t place).1.any Response.settles) && s.isFit t place then [r]
      else [] := by
  have fit : s.isFit t place = (holds s.scene r.condition none (s.before t place).2).1 := by
    rw [isFit, hr, Option.any_some]
  have parts := authored_append s.scene false (t.responses.take place) [r]
    (repeatedAll s.scene t.repeatResponses s.encounter.generator).2
  rw [fit, ← authored_singleton, before, List.take_add_one, hr, Option.toList_some, parts]
  rfl

/-- A place without a response is passed by without a draw. -/
theorem before_succ_of_none {place : Nat} (hr : t.responses[place]? = none) :
    s.before t (place + 1) = s.before t place := by
  rw [before, List.take_add_one, hr, Option.toList_none, List.append_nil, before]

/-- A response is offered where its turn comes while the switch is open to it and its condition
holds. -/
theorem isOffered_eq {place : Nat} {r : Response} (hr : t.responses[place]? = some r) :
    s.isOffered t place =
      (!(r.switch && (s.before t place).1.any Response.settles) && s.isFit t place) := by
  rw [isOffered, before_succ s t hr, List.length_append]
  split
  · rename_i offered
    rw [offered]
    exact decide_eq_true (Nat.lt_succ_self _)
  · rename_i not
    rw [Bool.not_eq_true] at not
    rw [not]
    exact decide_eq_false (Nat.lt_irrefl _)

theorem isOffered_of_none {place : Nat} (hr : t.responses[place]? = none) :
    s.isOffered t place = false := by
  rw [isOffered, before_succ_of_none s t hr]
  exact decide_eq_false (Nat.lt_irrefl _)

/-- What is offered before a place are the responses that are offered at the places before it. -/
theorem before_fst (place : Nat) :
    (s.before t place).1 = t.responsesAt ((List.range place).filter (s.isOffered t)) := by
  induction place with
  | zero => rfl
  | succ place ih =>
    rw [List.range_succ, List.filter_append, Topic.responsesAt, List.filterMap_append,
      ← Topic.responsesAt, ← ih]
    cases hr : t.responses[place]? with
    | none =>
      rw [before_succ_of_none s t hr, List.filter_cons_of_neg, List.filter_nil]
      · exact (List.append_nil _).symm
      · rw [isOffered_of_none s t hr]
        exact Bool.false_ne_true
    | some r =>
      rw [before_succ s t hr, ← isOffered_eq s t hr]
      congr 1
      split
      · rename_i offered
        rw [List.filter_cons_of_pos offered, List.filter_nil, List.filterMap_cons, hr]
        rfl
      · rename_i not
        rw [List.filter_cons_of_neg not]
        rfl

/-- The switch is settled before a place if a response that settles it is offered before. -/
theorem any_settles_before (place : Nat) :
    (s.before t place).1.any Response.settles = true ↔
      ∃ j, j < place ∧ s.isOffered t j = true ∧ t.settlesAt j = true := by
  rw [before_fst, List.any_eq_true]
  constructor
  · rintro ⟨r, mem, settles⟩
    obtain ⟨j, mem, hr⟩ := Topic.mem_responsesAt.1 mem
    obtain ⟨less, offered⟩ := List.mem_filter.1 mem
    exact ⟨j, List.mem_range.1 less, offered, (Topic.settlesAt_eq hr).trans settles⟩
  · rintro ⟨j, less, offered, settles⟩
    obtain ⟨r, hr, settles⟩ := (Option.any_eq_true _ _).1 settles
    refine ⟨r, Topic.mem_responsesAt.2 ⟨j, ?_, hr⟩, settles⟩
    exact List.mem_filter.2 ⟨List.mem_range.2 less, offered⟩

/-- A response is offered if its condition holds when its turn comes and, for a switch response, no
response before it that settles the switch is offered. -/
theorem isOffered_iff (place : Nat) :
    s.isOffered t place = true ↔ s.isFit t place = true ∧ (t.switchAt place = true →
      ∀ j, j < place → s.isOffered t j = true → t.settlesAt j = false) := by
  cases hr : t.responses[place]? with
  | none => simp [isOffered_of_none s t hr, isFit, hr]
  | some r =>
    have open_iff : (!(r.switch && (s.before t place).1.any Response.settles)) = true ↔
        (r.switch = true → ∀ j, j < place → s.isOffered t j = true → t.settlesAt j = false) := by
      rw [Bool.not_eq_true', Bool.and_eq_false_imp, ← Bool.not_eq_true, any_settles_before]
      simp only [not_exists, not_and, Bool.not_eq_true]
    rw [isOffered_eq s t hr, Bool.and_eq_true, open_iff, Topic.switchAt_eq hr, and_comm]

/-- Only what fits is offered. -/
theorem isFit_of_isOffered {s : Session α β} {t : Topic} {place : Nat}
    (h : s.isOffered t place = true) : s.isFit t place = true := ((s.isOffered_iff t place).1 h).1

/-- Places are offered in ascending order, each once. -/
theorem pairwise_offeredPlaces : (s.offeredPlaces t).Pairwise (· < ·) :=
  List.pairwise_lt_range.filter _

theorem mem_offeredPlaces {place : Nat} :
    place ∈ s.offeredPlaces t ↔ s.isOffered t place = true := by
  rw [offeredPlaces, List.mem_filter, List.mem_range]
  refine and_iff_right_of_imp fun offered => Nat.lt_of_not_le fun beyond => ?_
  rw [isOffered_of_none s t (List.getElem?_eq_none beyond)] at offered
  contradiction

/-- The farewell that ends the conversation. -/
def farewell (s : Session α β) : Response := .leadingTo s.settings.farewellText endTalk

/-- The farewell is added to what is offered of a topic, unless the topic does without it and
something else is offered. -/
def withFarewell (s : Session α β) (t : Topic) (shown : List Response) : List Response :=
  if t.replacesBuiltIn = true ∧ shown ≠ [] then shown else shown ++ [s.farewell]

/-- Where there is no topic, there is only the farewell. -/
theorem generate_of_topic?_eq_none (h : s.topic? = none) :
    s.generate.responses = [s.farewell] := by
  unfold generate
  rw [h]
  rfl

/-- What is visible is offered, with the farewell where it belongs. -/
theorem generate_eq_withFarewell {t : Topic} (h : s.topic? = some t) :
    s.generate.responses = s.withFarewell t (visible s.scene t s.encounter.generator).1 := by
  unfold generate
  rw [h]
  change (if _ then (visible s.scene t s.encounter.generator).1 else
    (visible s.scene t s.encounter.generator).1 ++ _) = withFarewell s t (visible _ _ _).1
  rw [withFarewell]
  simp only [Bool.and_eq_true, Bool.not_eq_true', List.isEmpty_eq_false_iff]
  rfl

/-- First come the repeat responses, then the authored responses that are offered at their places,
and the farewell at the end. -/
theorem generate_of_topic?_eq_some {t : Topic} (h : s.topic? = some t) :
    s.generate.responses = s.withFarewell t
      ((repeatedAll s.scene t.repeatResponses s.encounter.generator).1 ++
        t.responsesAt (s.offeredPlaces t)) := by
  have all : (s.before t t.responses.length).1 = t.responsesAt (s.offeredPlaces t) :=
    s.before_fst t t.responses.length
  rw [before, List.take_length] at all
  rw [← all]
  exact generate_eq_withFarewell s h

end Session

end Parley
