import Parley.Actor.Npc
import Parley.Actor.Player
import Parley.Proofs.Places

/-!
# Runs of switch responses

Switch responses may stand in several runs among the authored responses of a topic. All runs share
one switch, and only a response that is no default settles it. A run that finds it open offers its
responses up to the first that settles it; once it is settled, no run offers anything.
-/

namespace Parley

namespace Topic

/-- The places from `lo` to before `hi` are a run of switch responses that cannot be prolonged. -/
structure Run (t : Topic) (lo hi : Nat) : Prop where
  switch : ∀ i, i < hi → lo ≤ i → t.switchAt i = true
  left : lo = 0 ∨ t.switchAt (lo - 1) = false
  right : t.switchAt hi = false

variable {t : Topic}

/-- To the left of a switch its run begins somewhere. -/
theorem exists_run_left {i : Nat} (h : t.switchAt i = true) : ∃ lo, lo ≤ i ∧
    (∀ j, j ≤ i → lo ≤ j → t.switchAt j = true) ∧ (lo = 0 ∨ t.switchAt (lo - 1) = false) := by
  induction i with
  | zero => exact ⟨0, Nat.le_refl _, fun j le _ => Nat.le_zero.1 le ▸ h, .inl rfl⟩
  | succ i ih =>
    cases before : t.switchAt i with
    | false =>
      exact ⟨i + 1, Nat.le_refl _, fun j le ge => Nat.le_antisymm ge le ▸ h, .inr before⟩
    | true =>
      obtain ⟨lo, le, switch, left⟩ := ih before
      refine ⟨lo, Nat.le_succ_of_le le, fun j le' ge => ?_, left⟩
      rcases Nat.le_succ_iff.1 le' with inner | rfl
      · exact switch j inner ge
      · exact h

/-- To the right of a switch its run ends somewhere. -/
theorem exists_run_right {i : Nat} (h : t.switchAt i = true) : ∃ hi, i < hi ∧
    (∀ j, j < hi → i ≤ j → t.switchAt j = true) ∧ t.switchAt hi = false := by
  have bounded : i < t.responses.length := by
    obtain ⟨r, hr, -⟩ := (Option.any_eq_true _ _).1 h
    exact (List.getElem?_eq_some_iff.1 hr).1
  cases next : t.switchAt (i + 1) with
  | false =>
    exact ⟨i + 1, Nat.lt_succ_self i, fun j less ge =>
      Nat.le_antisymm ge (Nat.le_of_lt_succ less) ▸ h, next⟩
  | true =>
    obtain ⟨hi, less, switch, right⟩ := exists_run_right next
    refine ⟨hi, Nat.lt_of_succ_lt less, fun j less' ge => ?_, right⟩
    rcases Nat.eq_or_lt_of_le ge with rfl | later
    · exact h
    · exact switch j less' later
termination_by t.responses.length - i

/-- Every switch response stands in a run. -/
theorem exists_run {i : Nat} (h : t.switchAt i = true) :
    ∃ lo hi, t.Run lo hi ∧ lo ≤ i ∧ i < hi := by
  obtain ⟨lo, from_lo, switch, left⟩ := exists_run_left h
  obtain ⟨hi, before_hi, switch', right⟩ := exists_run_right h
  refine ⟨lo, hi, ⟨fun j less ge => ?_, left, right⟩, from_lo, before_hi⟩
  rcases Nat.le_total j i with before | after
  · exact switch j before ge
  · exact switch' j less after

end Topic

namespace Session

variable {α β : Type} [Actor α] [Actor β]

/-- Every run offers its first response whose condition holds and no other, whatever other runs
offer. -/
def FirstOfEachRun (s : Session α β) (t : Topic) : Prop :=
  ∀ lo hi, t.Run lo hi → ∀ i, lo ≤ i → i < hi →
    (s.isOffered t i = true ↔
      s.isFit t i = true ∧ ∀ j, j < i → lo ≤ j → s.isFit t j = false)

variable {s : Session α β} {t : Topic} {lo hi i : Nat}

/-- In a run that finds the switch open, a response is offered if its condition holds and none
before it in the run, whose condition holds, settles the switch. -/
theorem isOffered_iff_of_open (run : t.Run lo hi)
    (stillOpen : ∀ j, j < lo → s.isOffered t j = true → t.settlesAt j = false)
    (from_lo : lo ≤ i) (before_hi : i < hi) :
    s.isOffered t i = true ↔ s.isFit t i = true ∧
      ∀ j, j < i → lo ≤ j → s.isFit t j = true → t.settlesAt j = false := by
  have switch := run.switch i before_hi from_lo
  constructor
  · intro offered
    obtain ⟨fit, unsettled⟩ := (s.isOffered_iff t i).1 offered
    refine ⟨fit, fun j less _ fit' => ?_⟩
    rw [← Bool.not_eq_true]
    intro settles
    -- Either this response is offered, or it is not because an earlier one settles the switch.
    have not_offered : ¬s.isOffered t j = true := fun offered' => by
      rw [unsettled switch j less offered'] at settles
      contradiction
    exact not_offered ((s.isOffered_iff t j).2 ⟨fit', fun _ k less' =>
      unsettled switch k (Nat.lt_trans less' less)⟩)
  · rintro ⟨fit, unsettled⟩
    refine (s.isOffered_iff t i).2 ⟨fit, fun _ j less offered => ?_⟩
    rcases Nat.lt_or_ge j lo with outside | inside
    · exact stillOpen j outside offered
    · exact unsettled j less inside (isFit_of_isOffered offered)

/-- Where a switch was settled before a run, nothing of that run is offered. -/
theorem isOffered_of_settled (run : t.Run lo hi)
    (settled : ∃ j, j < lo ∧ s.isOffered t j = true ∧ t.settlesAt j = true)
    (from_lo : lo ≤ i) (before_hi : i < hi) : s.isOffered t i = false := by
  obtain ⟨j, less, offered, settles⟩ := settled
  rw [← Bool.not_eq_true]
  intro offered'
  have unsettled := ((s.isOffered_iff t i).1 offered').2 (run.switch i before_hi from_lo) j
    (Nat.lt_of_lt_of_le less from_lo) offered
  rw [settles] at unsettled
  contradiction

/-- Every switch response stands in a run, and the runs of a topic share one switch. Once a
response that settles it is offered, no later run offers anything. A run that finds the switch open
offers the responses whose conditions hold, up to and including the first of them that settles the
switch; a default does not settle it. Conditions may draw random numbers, and are taken as they
come out at their turn. -/
theorem switch_settled_once (s : Session α β) (t : Topic) (known : s.topic? = some t) :
    s.generate.responses = s.withFarewell t
        ((repeatedAll s.scene t.repeatResponses s.encounter.generator).1 ++
          t.responsesAt (s.offeredPlaces t)) ∧
      (∀ i, i ∈ s.offeredPlaces t ↔ s.isOffered t i = true) ∧
      (∀ i, t.switchAt i = true → ∃ lo hi, t.Run lo hi ∧ lo ≤ i ∧ i < hi) ∧
      ∀ lo hi, t.Run lo hi → ∀ i, lo ≤ i → i < hi →
        ((∃ j, j < lo ∧ s.isOffered t j = true ∧ t.settlesAt j = true) →
          s.isOffered t i = false) ∧
        ((∀ j, j < lo → s.isOffered t j = true → t.settlesAt j = false) →
          (s.isOffered t i = true ↔ s.isFit t i = true ∧
            ∀ j, j < i → lo ≤ j → s.isFit t j = true → t.settlesAt j = false)) := by
  refine ⟨s.generate_of_topic?_eq_some known, fun i => s.mem_offeredPlaces t,
    fun i => Topic.exists_run, ?_⟩
  intro lo hi run i from_lo before_hi
  exact ⟨fun settled => isOffered_of_settled run settled from_lo before_hi,
    fun stillOpen => isOffered_iff_of_open run stillOpen from_lo before_hi⟩

/-- The default of the first run is offered and leaves the switch open. The second run offers its
default and the response that settles the switch, and the third run nothing. -/
theorem third_run_offers_nothing :
    let topic : Topic :=
      { id := "TALK"
        responses := [{ text := "Perhaps.", switch := true, default := true }, { text := "Well." },
          { text := "Hardly.", switch := true, default := true },
          { text := "By radio?", switch := true, condition := some .isByRadio },
          { text := "Yes.", switch := true }, { text := "Wait." },
          { text := "No.", switch := true }] }
    let s : Session Player Npc := start (.ofSheet (.new "Bob")) (.ofSheet (.new "Ann")) .empty
      (Registry.empty.insertAll [topic]) { firstTopic := "TALK" } 0
    s.topic? = some topic ∧ topic.Run 0 1 ∧ topic.Run 2 5 ∧ topic.Run 6 7 ∧
      s.offeredPlaces topic = [0, 1, 2, 4, 5] ∧ s.isOffered topic 2 = true ∧
      s.isOffered topic 4 = true ∧ s.isOffered topic 6 = false := by
  intro topic s
  have known : s.topic? = some topic := rfl
  have first : topic.Run 0 1 := ⟨by decide, .inl rfl, by decide⟩
  have second : topic.Run 2 5 := ⟨by decide, .inr rfl, by decide⟩
  have third : topic.Run 6 7 := ⟨by decide, .inr rfl, by decide⟩
  obtain ⟨-, -, -, runs⟩ := switch_settled_once s topic known
  have stillOpen : ∀ j, j < 2 → s.isOffered topic j = true → topic.settlesAt j = false := by
    decide +kernel
  have default := ((runs 2 5 second 2 (by decide) (by decide)).2 stillOpen).2 (by decide +kernel)
  have settling := ((runs 2 5 second 4 (by decide) (by decide)).2 stillOpen).2 (by decide +kernel)
  have nothing := (runs 6 7 third 6 (by decide) (by decide)).1 ⟨4, by decide, settling, by decide⟩
  exact ⟨known, first, second, third, by decide +kernel, default, settling, nothing⟩

/-- A run that begins with a default offers two responses, and a run after one that has settled the
switch offers not even its first. -/
theorem runs_not_decided_by_their_first :
    let session (topic : Topic) : Session Player Npc :=
      start (.ofSheet (.new "Bob")) (.ofSheet (.new "Ann")) .empty
        (Registry.empty.insertAll [topic]) { firstTopic := "TALK" } 0
    let mixed : Topic :=
      { id := "TALK", replace? := some true
        responses := [{ text := "Perhaps.", switch := true, default := true },
          { text := "Yes.", switch := true }] }
    let parted : Topic :=
      { id := "TALK", replace? := some true
        responses := [{ text := "Yes.", switch := true }, { text := "Wait." },
          { text := "No.", switch := true }] }
    (¬(session mixed).FirstOfEachRun mixed ∧
        (session mixed).generate.responses.map (·.text) = ["Perhaps.", "Yes."]) ∧
      ¬(session parted).FirstOfEachRun parted ∧
        (session parted).generate.responses.map (·.text) = ["Yes.", "Wait."] := by
  intro session mixed parted
  refine ⟨⟨fun each => ?_, by decide +kernel⟩, fun each => ?_, by decide +kernel⟩
  · have alone := (each 0 2 ⟨by decide, .inl rfl, by decide⟩ 1 (by decide) (by decide)).1
      (by decide +kernel)
    have hidden := alone.2 0 (by decide) (by decide)
    revert hidden
    decide +kernel
  · have offered := (each 2 3 ⟨by decide, .inr rfl, by decide⟩ 2 (by decide) (by decide)).2
      (by decide +kernel)
    revert offered
    decide +kernel

end Session

end Parley
