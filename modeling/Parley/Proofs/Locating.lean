import Parley.Proofs.Loading

/-!
# Where content is refused

A failure to read content is reported with its place: each enclosing unit puts its own place in
front of the one that is named already. In a list it is the first member that cannot be read which
is named, by its index. So whatever is wrong with a topic is reported under the id of the topic.
-/

namespace Parley

/-- How a failure is reported at a place: with its own place behind that one, or else in its own
words. A fault is not reported, but breaks off the reading. -/
inductive Failure.Report (place : String) : Failure → Failure → Prop where
  | nested {inner message} :
      Report place (.content inner message) (.content (place ++ "/" ++ inner) message)
  | plain {e} (unplaced : ∀ inner message, e ≠ .content inner message)
      (met : ∀ cause, e ≠ .fault cause) : Report place e (.content place e.message)
  | fault {cause} : Report place (.fault cause) (.fault cause)

namespace Failure

/-- A failure is reported under the place at which it is caught. -/
theorem report_inContext (place : String) (e : Failure) : Report place e (e.inContext place) := by
  cases e with
  | content => exact .nested
  | fault => exact .fault
  | _ => exact .plain nofun nofun

/-- Places are put before one another. -/
theorem inContext_inContext (outer inner : String) (e : Failure) :
    (e.inContext inner).inContext outer = e.inContext (outer ++ "/" ++ inner) := by
  cases e <;> simp [inContext, String.append_assoc]

end Failure

section

variable {γ δ : Type}

/-- The first member of a list that cannot be read is the one with an index, for a cause. -/
structure FirstFails (f : γ → Except Failure δ) (l : List γ) (i : Nat) (e : Failure) : Prop where
  fails : ∃ a, l[i]? = some a ∧ f a = .error e
  before : ∀ k < i, ∀ a, l[k]? = some a → ∃ b, f a = .ok b

variable {f : γ → Except Failure δ} {a : γ} {l : List γ} {i : Nat} {e failure : Failure}
  {label : String}

theorem not_firstFails_nil : ¬FirstFails f [] i e := by
  rintro ⟨⟨a, there, -⟩, -⟩
  contradiction

theorem firstFails_zero : FirstFails f (a :: l) 0 e ↔ f a = .error e := by
  constructor
  · rintro ⟨⟨b, there, fails⟩, -⟩
    obtain rfl := Option.some.inj there
    exact fails
  · intro fails
    exact ⟨⟨a, rfl, fails⟩, nofun⟩

theorem firstFails_succ :
    FirstFails f (a :: l) (i + 1) e ↔ (∃ b, f a = .ok b) ∧ FirstFails f l i e := by
  constructor
  · rintro ⟨fails, before⟩
    refine ⟨before 0 (Nat.succ_pos i) a rfl, fails, fun k less => ?_⟩
    exact before (k + 1) (Nat.succ_lt_succ less)
  · rintro ⟨first, fails, before⟩
    refine ⟨fails, fun k less b there => ?_⟩
    cases k with
    | zero =>
      obtain rfl := Option.some.inj there
      exact first
    | succ k => exact before k (Nat.lt_of_succ_lt_succ less) b there

theorem indexedFrom_cons_eq_error {n : Nat} :
    indexedFrom label f n (a :: l) = .error failure ↔
      (∃ e, f a = .error e ∧ failure = e.inContext (label ++ "[" ++ toString n ++ "]")) ∨
        (∃ b, f a = .ok b) ∧ indexedFrom label f (n + 1) l = .error failure := by
  rw [indexedFrom, bind_eq_error, mapError_eq_error]
  refine or_congr Iff.rfl ?_
  simp only [mapError_eq_ok, bind_eq_error, ← exists_and_right]
  simp [pure, Except.pure]

/-- Members are read in order, and the first failure is reported with the index of its member. -/
theorem indexedFrom_eq_error_iff {n : Nat} : indexedFrom label f n l = .error failure ↔
    ∃ i e, FirstFails f l i e ∧
      failure = e.inContext (label ++ "[" ++ toString (n + i) ++ "]") := by
  induction l generalizing n with
  | nil => simp [indexedFrom, not_firstFails_nil]
  | cons a l ih =>
    rw [indexedFrom_cons_eq_error, ih]
    refine Iff.trans (or_congr ?_ ?_) Nat.or_exists_add_one
    · simp only [firstFails_zero, Nat.add_zero]
    · simp only [firstFails_succ, and_assoc, exists_and_left, Nat.add_right_comm n 1,
        ← Nat.add_assoc]

/-- A list is refused for its first item that is, at the place of that item. -/
theorem indexed_eq_error_iff : indexed label f l = .error failure ↔ ∃ i e, FirstFails f l i e ∧
    failure = e.inContext (label ++ "[" ++ toString i ++ "]") := by
  simp only [indexed, indexedFrom_eq_error_iff, Nat.zero_add]

end

/-- The failure is reported under a place. Of faults there is no report. -/
def Failure.IsUnder (place : String) : Failure → Prop
  | .content context _ => context = place ∨ ∃ rest, context = place ++ "/" ++ rest
  | .fault _ => True
  | _ => False

theorem Failure.isUnder_inContext (place : String) (e : Failure) :
    (e.inContext place).IsUnder place := by
  cases e with
  | content inner message => exact .inr ⟨inner, rfl⟩
  | fault => trivial
  | _ => exact .inl rfl

/-- A list of effects is refused for the first effect that is. -/
theorem Effect.listOfJson_eq_error {items : List Json} {j : Nat} {e : Failure}
    (first : FirstFails ofJson items j e) :
    listOfJson (.arr items) = .error (e.inContext ("effect[" ++ toString j ++ "]")) :=
  indexed_eq_error_iff.2 ⟨j, e, first, rfl⟩

namespace Topic

/-- A topic is refused under its id. -/
theorem ofWritten_eq_error_iff {w : Written} {id : String} {failure : Failure} :
    ofWritten w id = .error failure ↔ ∃ e, build id w = .error e ∧ failure = e.inContext id :=
  mapError_eq_error

/-- Once the speaker effects and the line are accepted, a topic is refused for its first response
that is. -/
theorem build_eq_error {w : Written} {i : Nat} {e : Failure} (id : String)
    (spoken : ∃ effects, speakerEffectsOf w.speakerEffect = .ok effects)
    (said : ∃ line, lineOf w.line = .ok line) (first : FirstFails Response.ofJson w.responses i e) :
    build id w = .error (e.inContext ("responses[" ++ toString i ++ "]")) := by
  obtain ⟨effects, spoken⟩ := spoken
  obtain ⟨line, said⟩ := said
  have refused : indexed "responses" Response.ofJson w.responses =
      .error (e.inContext ("responses[" ++ toString i ++ "]")) :=
    indexed_eq_error_iff.2 ⟨i, e, first, rfl⟩
  rw [build, spoken, said, refused]
  rfl

/-- Content is refused at the first thing that is wrong with it. Where speaker effects and line can
be read, the first response of a topic that cannot be read is named by its index under the id of
the topic; so is the first effect of a list that cannot be read. Both reports go on with the place
that the failure itself names, or give its words. All in all, whatever a topic is refused for is
reported under its id. -/
theorem refused_at_first_failure :
    (∀ (w : Written) (id : String) (i : Nat) (e : Failure),
      (∃ effects, speakerEffectsOf w.speakerEffect = .ok effects) →
      (∃ line, lineOf w.line = .ok line) → FirstFails Response.ofJson w.responses i e →
      ∃ failure, ofWritten w id = .error failure ∧
        e.Report (id ++ "/responses[" ++ toString i ++ "]") failure) ∧
    (∀ (items : List Json) (j : Nat) (e : Failure), FirstFails Effect.ofJson items j e →
      ∃ failure, Effect.listOfJson (.arr items) = .error failure ∧
        e.Report ("effect[" ++ toString j ++ "]") failure) ∧
    ∀ (w : Written) (id : String) (failure : Failure),
      ofWritten w id = .error failure → failure.IsUnder id := by
  refine ⟨fun w id i e spoken said first => ?_, fun items j e first => ?_, ?_⟩
  · refine ⟨_, ofWritten_eq_error_iff.2 ⟨_, build_eq_error id spoken said first, rfl⟩, ?_⟩
    have place : id ++ "/responses[" ++ toString i ++ "]" =
        id ++ "/" ++ ("responses[" ++ toString i ++ "]") := by
      simp only [String.append_assoc]
      rfl
    rw [Failure.inContext_inContext, place]
    exact Failure.report_inContext _ e
  · exact ⟨_, Effect.listOfJson_eq_error first, Failure.report_inContext _ e⟩
  · intro w id failure refused
    obtain ⟨e, -, rfl⟩ := ofWritten_eq_error_iff.1 refused
    exact Failure.isUnder_inContext id e

/-- An unknown effect is found at four levels: under the id of its topic, in the second response, in
what happens when the trial fails, as the second effect. -/
theorem dragon_located :
    let good : Json := .obj [("text", .str "Bye."), ("topic", .str "TALK_DONE")]
    let effects : List Json := [.str "follow", .obj [("type", .str "summon_dragon")]]
    let bad : Json := .obj [("failure", .obj [("effect", .arr effects)]), ("text", .str "Fight!")]
    let w : Written := ⟨["TALK_BAD"], none, none, none, [good, bad], []⟩
    let message := "Unknown effect 'summon_dragon'"
    FirstFails Effect.ofJson effects 1 (.unknownEffect "summon_dragon") ∧
      Effect.listOfJson (.arr effects) = .error (.content "effect[1]" message) ∧
      FirstFails Response.ofJson w.responses 1 (.content "failure/effect[1]" message) ∧
      ofWritten w "TALK_BAD" =
        .error (.content "TALK_BAD/responses[1]/failure/effect[1]" message) := by
  intro good effects bad w message
  have unknown : FirstFails Effect.ofJson effects 1 (.unknownEffect "summon_dragon") :=
    firstFails_succ.2 ⟨⟨_, rfl⟩, firstFails_zero.2 rfl⟩
  have first : FirstFails Response.ofJson w.responses 1 (.content "failure/effect[1]" message) :=
    firstFails_succ.2 ⟨⟨_, rfl⟩, firstFails_zero.2 rfl⟩
  obtain ⟨inTopic, inList, -⟩ := refused_at_first_failure
  obtain ⟨_, listed, report⟩ := inList effects 1 _ unknown
  obtain ⟨_, refused, report'⟩ := inTopic w "TALK_BAD" 1 _ ⟨_, rfl⟩ ⟨_, rfl⟩ first
  refine ⟨unknown, ?_, first, ?_⟩
  · cases report
    exact listed
  · cases report' with
    | nested => exact refused
    | plain unplaced => exact absurd rfl (unplaced _ _)

end Topic

end Parley
