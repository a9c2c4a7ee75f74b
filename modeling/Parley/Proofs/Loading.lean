import Parley.Proofs.CheckedTrial
import Parley.Topic.Registry

/-!
# Trials that were loaded

Content whose trials have no percentage for a difficulty is refused, and what is refused is left
out. So in a registry that was built by loading texts of content the trials of all responses, those
of repeat responses included, have a percentage for a difficulty.
-/

namespace Parley

/-- What the computation comes to, if it comes to anything, satisfies `P`. -/
def Ensures {ε γ : Type} (P : γ → Prop) (x : Except ε γ) : Prop := ∀ a, x = .ok a → P a

section

variable {ε ε' γ δ : Type} {P : γ → Prop} {Q : δ → Prop} {x : Except ε γ} {f : γ → Except ε δ}

theorem ensures_ok {a : γ} (h : P a) : Ensures P (.ok a : Except ε γ) := by
  intro b hb
  obtain rfl := Except.ok.inj hb
  exact h

theorem ensures_error {e : ε} : Ensures P (.error e : Except ε γ) := nofun

theorem Ensures.bind (hx : Ensures P x) (hf : ∀ a, P a → Ensures Q (f a)) :
    Ensures Q (x >>= f) := by
  cases x with
  | ok a => exact hf a (hx a rfl)
  | error e => exact ensures_error

/-- After a computation of which nothing needs to be known. -/
theorem ensures_bind (hf : ∀ a, Ensures Q (f a)) : Ensures Q (x >>= f) := by
  cases x with
  | ok a => exact hf a
  | error e => exact ensures_error

theorem Ensures.ite {p : Prop} [Decidable p] {y z : Except ε γ} (hy : p → Ensures P y)
    (hz : ¬p → Ensures P z) : Ensures P (if p then y else z) := by
  split
  · exact hy ‹_›
  · exact hz ‹_›

theorem Ensures.mapError {g : ε → ε'} (hx : Ensures P x) : Ensures P (x.mapError g) := by
  cases x with
  | ok a => exact ensures_ok (hx a rfl)
  | error e => exact ensures_error

theorem bind_eq_error {e : ε} :
    (x >>= f) = .error e ↔ x = .error e ∨ ∃ a, x = .ok a ∧ f a = .error e := by
  cases x <;> simp [bind, Except.bind]

theorem mapError_eq_error {g : ε → ε'} {e' : ε'} :
    x.mapError g = .error e' ↔ ∃ e, x = .error e ∧ e' = g e := by
  cases x with
  | ok a => exact iff_of_false nofun nofun
  | error e =>
    constructor
    · exact fun h => ⟨e, rfl, (Except.error.inj h).symm⟩
    · rintro ⟨e₁, same, rfl⟩
      obtain rfl := Except.error.inj same
      rfl

theorem mapError_eq_ok {g : ε → ε'} {a : γ} : x.mapError g = .ok a ↔ x = .ok a := by
  cases x with
  | ok b => exact ⟨fun h => congrArg _ (Except.ok.inj h), fun h => congrArg _ (Except.ok.inj h)⟩
  | error e => exact iff_of_false nofun nofun

/-- A list of computations succeeds if each of them does. -/
theorem mapM_eq_ok {l : List γ} {bs : List δ} :
    l.mapM f = .ok bs ↔ l.map f = bs.map .ok := by
  induction l generalizing bs with
  | nil => cases bs <;> simp [pure, Except.pure]
  | cons a l ih =>
    rw [List.mapM_cons, List.map_cons]
    cases f a with
    | error e => cases bs <;> simp [bind, Except.bind]
    | ok b =>
      cases bs with
      | nil => cases l.mapM f <;> simp [bind, Except.bind, pure, Except.pure]
      | cons b' bs =>
        rw [List.map_cons, List.cons.injEq, Except.ok.injEq, ← ih]
        cases l.mapM f <;> simp [bind, Except.bind, pure, Except.pure]

theorem ensures_mapM {l : List γ} (h : ∀ a ∈ l, Ensures Q (f a)) :
    Ensures (fun bs => ∀ b ∈ bs, Q b) (l.mapM f) := by
  intro bs all b mem
  have computed : Except.ok b ∈ l.map f := mapM_eq_ok.1 all ▸ List.mem_map_of_mem mem
  obtain ⟨a, mem, ok⟩ := List.mem_map.1 computed
  exact h a mem b ok

theorem ensures_indexed {f : γ → Except Failure δ} {label : String} {l : List γ}
    (h : ∀ a, Ensures Q (f a)) : Ensures (fun bs => ∀ b ∈ bs, Q b) (indexed label f l) := by
  unfold indexed
  generalize 0 = i
  induction l generalizing i with
  | nil => exact ensures_ok nofun
  | cons a l ih =>
    refine (h a).mapError.bind fun b hb => (ih (i + 1)).bind fun bs hbs => ?_
    exact ensures_ok (List.forall_mem_cons.2 ⟨hb, hbs⟩)

end

/-- An operator with as many arguments as it takes can be applied, so a formula that was read has
all of its arguments. -/
theorem Formula.AnyOp.applies_iff (op : AnyOp) (args : List Formula) :
    op.apply? args ≠ none ↔ op.takes args.length = true := by
  cases op with
  | fold op => cases args <;> simp [takes, AnyOp.apply?]
  | binary op =>
    match args with
    | [] | [_] | [_, _] | _ :: _ :: _ :: _ => simp [takes, AnyOp.apply?]
  | unary op =>
    match args with
    | [] | [_] | _ :: _ :: _ => simp [takes, AnyOp.apply?]

/-- A trial that content writes has a percentage for a difficulty. -/
theorem Trial.ofJson_proper (j : Json) : Ensures Proper (ofJson j) := by
  refine ensures_bind fun w => .ite (fun _ => ensures_error) fun range => ?_
  refine .ite (fun _ => ensures_error) fun _ => ensures_bind fun condition => ?_
  refine ensures_bind fun modifiers => ensures_ok ?_
  simpa only [Proper, not_or, Int32.not_lt] using range

/-- The trial of a response that needs no luck. -/
theorem Trial.default_proper : Proper {} := ⟨by decide, by decide⟩

theorem Response.trialOf_proper (j? : Option Json) : Ensures Trial.Proper (trialOf j?) := by
  cases j? with
  | some j => exact Trial.ofJson_proper j
  | none => exact ensures_ok Trial.default_proper

theorem Response.ofJson_proper (j : Json) : Ensures (·.trial.Proper) (ofJson j) := by
  refine ensures_bind fun w => ensures_bind fun choice => ensures_bind fun text => ?_
  refine ensures_bind fun success => ensures_bind fun failure => ?_
  refine (trialOf_proper w.trial).bind fun trial proper => ?_
  exact ensures_bind fun condition => ensures_ok proper

theorem RepeatResponse.ofJson_proper (j : Json) :
    Ensures (·.response.trial.Proper) (ofJson j) := by
  refine ensures_bind fun w => .ite (fun _ => ensures_error) fun _ => ?_
  exact (Response.ofJson_proper _).mapError.bind fun response proper => ensures_ok proper

namespace Topic

/-- The trials of all responses of the topic have a percentage for a difficulty. -/
structure Proper (t : Topic) : Prop where
  responses : ∀ r ∈ t.responses, r.trial.Proper
  repeatResponses : ∀ r ∈ t.repeatResponses, r.response.trial.Proper

/-- All trials of a topic that is read are proper. -/
theorem build_proper (id : String) (w : Written) : Ensures Proper (build id w) := by
  refine ensures_bind fun speakerEffects => ensures_bind fun line => ?_
  refine (ensures_indexed Response.ofJson_proper).bind fun responses proper => ?_
  refine (ensures_indexed RepeatResponse.ofJson_proper).bind fun repeatResponses proper' => ?_
  exact ensures_ok ⟨proper, proper'⟩

theorem allOfJson_proper (j : Json) : Ensures (fun ts => ∀ t ∈ ts, t.Proper) (allOfJson j) :=
  ensures_bind fun w => ensures_mapM fun id _ => (build_proper id w).mapError

/-- Topics with proper trials are merged into one. -/
theorem Proper.merge {t later : Topic} (h : t.Proper) (h' : later.Proper) :
    (t.merge later).Proper where
  responses r mem := (List.mem_append.1 mem).elim (h.responses r) (h'.responses r)
  repeatResponses r mem :=
    (List.mem_append.1 mem).elim (h.repeatResponses r) (h'.repeatResponses r)

end Topic

namespace Registry

/-- The registry after a text of content, whether or not the text could be used as a whole. -/
def afterLoad (r : Registry) (source text : String) : Registry := (r.load source text).2

/-- The registry that comes about by loading texts of content, each with its source, in order. -/
def loaded (texts : List (String × String)) : Registry :=
  texts.foldl (fun r t => r.afterLoad t.1 t.2) .empty

/-- The trials of all responses of all topics have a percentage for a difficulty. -/
def Proper (r : Registry) : Prop := ∀ id t, r.get? id = some t → t.Proper

theorem definitions_proper (record : Json) :
    Ensures (fun ts => ∀ t ∈ ts, t.Proper) (definitions record) := by
  refine .ite (fun _ => ?_) fun _ => ensures_ok nofun
  split
  · rename_i ts h
    exact ensures_ok (Topic.allOfJson_proper record ts h)
  · exact ensures_error
  · exact ensures_ok nofun

namespace Proper

variable {r : Registry}

theorem insert (h : r.Proper) {t : Topic} (ht : t.Proper) : (r.insert t).Proper := by
  intro id t' found
  rw [Registry.get?, Registry.insert, Dict.get?_insert] at found
  split at found
  · obtain rfl := Option.some.inj found
    split
    · rename_i earlier known
      exact (h t.id earlier known).merge ht
    · exact ht
  · exact h id t' found

/-- A registry stays proper under definitions that are. -/
theorem insertAll (h : r.Proper) {ts : List Topic} (hts : ∀ t ∈ ts, t.Proper) :
    (r.insertAll ts).Proper := by
  induction ts generalizing r with
  | nil => exact h
  | cons t ts ih =>
    exact ih (h.insert (hts t (.head _))) fun t' mem => hts t' (.tail _ mem)

/-- Each record adds topics of proper trials, also before one that breaks the load off. -/
theorem addRecords (h : r.Proper) (l : List Json) : (r.addRecords l).2.Proper := by
  induction l generalizing r with
  | nil => exact h
  | cons record l ih =>
    rw [Registry.addRecords]
    split
    · rename_i ts given
      exact ih (h.insertAll (definitions_proper record ts given))
    · exact h

/-- A registry stays proper whatever text is loaded, also where the loading is broken off. -/
theorem afterLoad (h : r.Proper) (source text : String) : (r.afterLoad source text).Proper := by
  rw [Registry.afterLoad, Registry.load]
  split
  · exact h
  · exact h.addRecords _

end Proper

/-- Whatever is loaded, the trials on offer have a percentage for a difficulty. -/
theorem proper_loaded (texts : List (String × String)) : (loaded texts).Proper := by
  have step : ∀ r : Registry, r.Proper →
      (texts.foldl (fun r t => r.afterLoad t.1 t.2) r).Proper := by
    induction texts with
    | nil => exact fun _ => id
    | cons t texts ih => exact fun r h => ih _ (h.afterLoad t.1 t.2)
  exact step .empty nofun

end Registry

end Parley
