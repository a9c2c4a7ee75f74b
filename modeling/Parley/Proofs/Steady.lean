import Parley.Conversation.Offer

/-!
# Content without ranges

Evaluating draws a random number for a range and for nothing else. So where content has no ranges,
a condition, a line or a text comes to the same whatever the state of the random generator, and
leaves that state alone: the evaluation is steady.
-/

namespace Parley

/-! ### Content without ranges -/

/-- Is a quantity no range? -/
def Quantity.isSingle {γ : Type} : Quantity γ → Bool
  | .single _ => true
  | .range .. => false

mutual

/-- Is there no range in a formula? -/
def Formula.rangeFree : Formula → Bool
  | .ref value => value.isSingle
  | .fold _ first rest => first.rangeFree && Formula.allRangeFree rest
  | .binary _ left right => left.rangeFree && right.rangeFree
  | .unary _ arg => arg.rangeFree

/-- Is there no range in any of some formulas? -/
def Formula.allRangeFree : List Formula → Bool
  | [] => true
  | f :: rest => f.rangeFree && Formula.allRangeFree rest

end

namespace Condition

mutual

/-- Is there no range in a condition, at any depth? -/
def rangeFree : Condition → Bool
  | .and all => allRangeFree all
  | .or any => allRangeFree any
  | .not inner => inner.rangeFree
  | .hasItem _ _ n | .hasItemCategory _ _ n | .skillAtLeast _ _ n | .statAtLeast _ _ n
  | .factionTrustAtLeast n | .opinion _ _ n | .hasCash _ n | .withinDistance n
  | .moraleAtLeast _ n => n.isSingle
  | .compareInt lhs _ rhs => lhs.isSingle && rhs.isSingle
  | .compareDuration lhs _ rhs => lhs.isSingle && rhs.isSingle
  | .math lhs _ rhs => lhs.rangeFree && rhs.rangeFree
  | _ => true

/-- Is there no range in any of some conditions? -/
def allRangeFree : List Condition → Bool
  | [] => true
  | c :: rest => c.rangeFree && allRangeFree rest

end

end Condition

namespace Line

mutual

/-- Is there no range in the conditions of a line? -/
def rangeFree : Line → Bool
  | .fixed _ => true
  | .concat parts => allRangeFree parts
  | .conditional condition yes no => condition.rangeFree && yes.rangeFree && no.rangeFree
  | .cascade branches default => branchesRangeFree branches && defaultRangeFree default

/-- Is there no range in the conditions of some lines? -/
def allRangeFree : List Line → Bool
  | [] => true
  | line :: rest => line.rangeFree && allRangeFree rest

/-- Is there no range in the conditions of some branches? -/
def branchesRangeFree : List (Condition × Line) → Bool
  | [] => true
  | (condition, line) :: rest => condition.rangeFree && line.rangeFree && branchesRangeFree rest

/-- Is there no range in the conditions of a default? -/
def defaultRangeFree : Option Line → Bool
  | none => true
  | some line => line.rangeFree

end

end Line

/-- Is there no range in the condition of a trial that a condition decides? -/
def Trial.rangeFree (t : Trial) : Bool :=
  t.kind ≠ .condition || t.condition.all Condition.rangeFree

/-- Is there no range in the conditions of a response: whether it is visible, what its text is, and
what decides its trial? -/
def Response.rangeFree (r : Response) : Bool :=
  r.condition.all Condition.rangeFree && r.choice.all (·.condition.rangeFree) && r.trial.rangeFree

/-- Is there no range in the conditions of the line and the responses of a topic? -/
def Topic.rangeFree (t : Topic) : Bool :=
  t.line.all Line.rangeFree && t.responses.all Response.rangeFree &&
    t.repeatResponses.all (·.response.rangeFree)

/-- Is there no range in the conditions of the lines and responses of any topic? -/
def Registry.rangeFree (r : Registry) : Bool := r.topics.values.all Topic.rangeFree

/-! ### Steady evaluations -/

section

variable {γ δ : Type}

/-- A computation comes to the same in every state of the random generator and leaves it alone. -/
def Steady (m : StateM Generator γ) : Prop := ∃ a, m = pure a

namespace Steady

variable {m : StateM Generator γ} {f : γ → StateM Generator δ}

theorem pure (a : γ) : Steady (pure a) := ⟨a, rfl⟩

theorem bind (hm : Steady m) (hf : ∀ a, Steady (f a)) : Steady (m >>= f) := by
  obtain ⟨a, rfl⟩ := hm
  rw [pure_bind]
  exact hf a

/-- The generator is left alone. -/
theorem snd (h : Steady m) (g : Generator) : (m g).2 = g := by
  obtain ⟨a, rfl⟩ := h
  rfl

/-- What a steady computation comes to does not depend on the generator. -/
theorem fst (h : Steady m) (g g' : Generator) : (m g).1 = (m g').1 := by
  obtain ⟨a, rfl⟩ := h
  rfl

end Steady

/-- An evaluation comes to the same in every state of the random generator and leaves it alone. -/
def Draw.Steady (m : Draw γ) : Prop := ∃ x, m = Draw.ofExcept x

namespace Draw.Steady

variable {m : Draw γ} {f : γ → Draw δ}

theorem ofExcept (x : Except Failure γ) : (Draw.ofExcept x).Steady := ⟨x, rfl⟩

theorem pure (a : γ) : Draw.Steady (pure a) := ⟨.ok a, rfl⟩

theorem bind (hm : m.Steady) (hf : ∀ a, (f a).Steady) : (m >>= f).Steady := by
  obtain ⟨x, rfl⟩ := hm
  cases x with
  | error failure => exact ⟨.error failure, rfl⟩
  | ok a => exact hf a

end Draw.Steady

end

/-! ### Evaluations without ranges -/

section

variable {α β : Type} [Actor α] [Actor β] {s : Scene α β} {item : Option String}

theorem IntRef.steady {ref : IntRef} (h : Quantity.isSingle ref = true) :
    (ref.evaluate s).Steady := by
  cases ref with
  | single part => exact .ofExcept _
  | range => contradiction

theorem DurationRef.steady {ref : DurationRef} (h : Quantity.isSingle ref = true) :
    (ref.evaluate s).Steady := by
  cases ref with
  | single part => exact .ofExcept _
  | range => contradiction

mutual

/-- A formula without ranges draws nothing. -/
theorem Formula.steady : ∀ f : Formula, f.rangeFree = true → (f.evaluate s).Steady
  | .ref value, h => IntRef.steady h
  | .fold op first rest, h => by
    obtain ⟨h₁, h₂⟩ := Bool.and_eq_true_iff.1 h
    unfold Formula.evaluate
    refine (first.steady h₁).bind fun _ => ?_
    exact (Formula.steady_all rest h₂).bind fun _ => .pure _
  | .binary op left right, h => by
    obtain ⟨h₁, h₂⟩ := Bool.and_eq_true_iff.1 h
    unfold Formula.evaluate
    exact (left.steady h₁).bind fun _ => (right.steady h₂).bind fun _ => .ofExcept _
  | .unary op arg, h => by
    unfold Formula.evaluate
    exact (arg.steady h).bind fun _ => .pure _

theorem Formula.steady_all : ∀ fs : List Formula, Formula.allRangeFree fs = true →
    (Formula.evaluateAll s fs).Steady
  | [], _ => .pure _
  | f :: rest, h => by
    obtain ⟨h₁, h₂⟩ := Bool.and_eq_true_iff.1 h
    unfold Formula.evaluateAll
    exact (f.steady h₁).bind fun _ => (Formula.steady_all rest h₂).bind fun _ => .pure _

end

namespace Condition

theorem steady_atLeast (owned : Int32) {wanted : IntRef} (h : Quantity.isSingle wanted = true) :
    (atLeast s owned wanted).Steady := (IntRef.steady h).bind fun _ => .pure _

mutual

/-- A condition without ranges draws nothing. -/
theorem steady (c : Condition) (h : c.rangeFree = true) : (c.evaluate s item).Steady := by
  cases c with
  | and all => exact steady_all all h
  | or any => exact steady_any any h
  | not inner => exact (steady inner h).bind fun _ => .pure _
  | hasItem | hasItemCategory | skillAtLeast | statAtLeast | factionTrustAtLeast | moraleAtLeast =>
    exact steady_atLeast _ h
  | opinion | hasCash | withinDistance => exact (IntRef.steady h).bind fun _ => .pure _
  | hasVar => exact (Draw.Steady.ofExcept _).bind fun _ => .pure _
  | compareInt lhs op rhs =>
    obtain ⟨h₁, h₂⟩ := Bool.and_eq_true_iff.1 h
    exact (IntRef.steady h₁).bind fun _ => (IntRef.steady h₂).bind fun _ => .pure _
  | compareText lhs op rhs =>
    exact (Draw.Steady.ofExcept _).bind fun _ => (Draw.Steady.ofExcept _).bind fun _ => .pure _
  | compareDuration lhs op rhs =>
    obtain ⟨h₁, h₂⟩ := Bool.and_eq_true_iff.1 h
    exact (DurationRef.steady h₁).bind fun _ => (DurationRef.steady h₂).bind fun _ => .pure _
  | math lhs op rhs =>
    obtain ⟨h₁, h₂⟩ := Bool.and_eq_true_iff.1 h
    exact (lhs.steady h₁).bind fun _ => (rhs.steady h₂).bind fun _ => .pure _
  | _ => exact .pure _

theorem steady_all (cs : List Condition) (h : allRangeFree cs = true) :
    (evaluateAll s item cs).Steady := by
  cases cs with
  | nil => exact .pure _
  | cons c rest =>
    obtain ⟨h₁, h₂⟩ := Bool.and_eq_true_iff.1 h
    -- Which conditions are looked at depends on those before, but not on the generator.
    refine (steady c h₁).bind fun value => ?_
    cases value with
    | true => exact steady_all rest h₂
    | false => exact .pure _

theorem steady_any (cs : List Condition) (h : allRangeFree cs = true) :
    (evaluateAny s item cs).Steady := by
  cases cs with
  | nil => exact .pure _
  | cons c rest =>
    obtain ⟨h₁, h₂⟩ := Bool.and_eq_true_iff.1 h
    refine (steady c h₁).bind fun value => ?_
    cases value with
    | true => exact .pure _
    | false => exact steady_any rest h₂

end

/-- A condition without ranges draws nothing. -/
theorem steady_check {c : Condition} (h : c.rangeFree = true) : Steady (c.check s item) := by
  obtain ⟨x, hx⟩ : (c.evaluate s item).Steady := c.steady h
  unfold check
  rw [hx]
  cases x with
  | ok value => exact ⟨value, rfl⟩
  | error failure => exact ⟨false, rfl⟩

end Condition

namespace Line

mutual

/-- A line without ranges draws nothing. -/
theorem steady : ∀ line : Line, line.rangeFree = true → Steady (line.render s)
  | .fixed text, _ => .pure _
  | .concat parts, h => by
    unfold render
    exact (steady_all parts h).bind fun _ => .pure _
  | .conditional condition yes no, h => by
    obtain ⟨h₁₂, h₃⟩ := Bool.and_eq_true_iff.1 h
    obtain ⟨h₁, h₂⟩ := Bool.and_eq_true_iff.1 h₁₂
    unfold render
    refine (Condition.steady_check h₁).bind fun due => ?_
    cases due with
    | true => exact steady yes h₂
    | false => exact steady no h₃
  | .cascade branches default, h => by
    obtain ⟨h₁, h₂⟩ := Bool.and_eq_true_iff.1 h
    unfold render
    refine (steady_first branches h₁).bind fun text => ?_
    cases text with
    | some text => exact .pure _
    | none => exact steady_default default h₂

theorem steady_all : ∀ lines : List Line, allRangeFree lines = true → Steady (renderAll s lines)
  | [], _ => .pure _
  | line :: rest, h => by
    obtain ⟨h₁, h₂⟩ := Bool.and_eq_true_iff.1 h
    unfold renderAll
    exact (steady line h₁).bind fun _ => (steady_all rest h₂).bind fun _ => .pure _

theorem steady_first : ∀ branches : List (Condition × Line), branchesRangeFree branches = true →
    Steady (renderFirst s branches)
  | [], _ => .pure _
  | (condition, line) :: rest, h => by
    obtain ⟨h₁₂, h₃⟩ := Bool.and_eq_true_iff.1 h
    obtain ⟨h₁, h₂⟩ := Bool.and_eq_true_iff.1 h₁₂
    unfold renderFirst
    refine (Condition.steady_check h₁).bind fun due => ?_
    cases due with
    | true => exact (steady line h₂).bind fun _ => .pure _
    | false => exact steady_first rest h₃

theorem steady_default : ∀ default : Option Line, defaultRangeFree default = true →
    Steady (renderDefault s default)
  | none, _ => .pure _
  | some line, h => steady line h

end

end Line

namespace Trial

theorem steady_chance {t : Trial} (h : t.rangeFree = true) : Steady (t.chance s) := by
  unfold chance
  cases hk : t.kind with
  | none => exact .pure _
  | social | skillCheck =>
    dsimp only
    split <;> exact .pure _
  | condition =>
    dsimp only
    split
    · exact .pure _
    · cases hc : t.condition with
      | none => exact .pure _
      | some c =>
        have free : c.rangeFree = true := by simpa [rangeFree, hk, hc] using h
        exact (Condition.steady_check free).bind fun _ => .pure _

theorem steady_decorate {t : Trial} (h : t.rangeFree = true) (text : String) :
    Steady (t.decorate s text) := by
  unfold decorate
  cases t.label with
  | none => exact .pure _
  | some label => exact (steady_chance h).bind fun _ => .pure _

end Trial

namespace Session

theorem steady_holds {c : Option Condition} (h : c.all Condition.rangeFree = true) :
    Steady (holds s c item) := by
  cases c with
  | none => exact .pure _
  | some c => exact Condition.steady_check h

end Session

theorem Response.rangeFree_iff {r : Response} : r.rangeFree = true ↔
    r.condition.all Condition.rangeFree = true ∧ r.choice.all (·.condition.rangeFree) = true ∧
      r.trial.rangeFree = true := by
  simp [rangeFree, and_assoc]

theorem Response.steady_displayText {r : Response} (h : r.rangeFree = true) :
    Steady (r.displayText s) := by
  obtain ⟨-, chosen, -⟩ := rangeFree_iff.1 h
  unfold displayText
  cases hc : r.choice with
  | none => exact .pure _
  | some choice =>
    rw [hc] at chosen
    refine (Condition.steady_check chosen).bind fun due => ?_
    cases due <;> exact .pure _

namespace Session

/-! ### Offers and responses without ranges -/

theorem steady_offer {r : Response} (h : r.rangeFree = true) (index : Nat) :
    Steady (offer s index r) := by
  obtain ⟨-, -, ht⟩ := Response.rangeFree_iff.1 h
  refine (Trial.steady_chance ht).bind fun _ => ?_
  refine (Response.steady_displayText h).bind fun _ => ?_
  exact (Trial.steady_decorate ht _).bind fun _ => .pure _

theorem steady_offersFrom {responses : List Response}
    (h : ∀ r ∈ responses, r.rangeFree = true) (index : Nat) :
    Steady (offersFrom s index responses) := by
  induction responses generalizing index with
  | nil => exact .pure _
  | cons r rest ih =>
    refine (steady_offer (h r (.head _)) index).bind fun _ => ?_
    exact (ih (fun r' mem => h r' (.tail _ mem)) (index + 1)).bind fun _ => .pure _

theorem steady_repeated {template : Response} (h : template.rangeFree = true)
    (items : List String) : Steady (repeated s template items) := by
  obtain ⟨visible, -, -⟩ := Response.rangeFree_iff.1 h
  induction items with
  | nil => exact .pure _
  | cons item rest ih => exact (steady_holds visible).bind fun _ => ih.bind fun _ => .pure _

theorem steady_repeatedAll {templates : List RepeatResponse}
    (h : ∀ t ∈ templates, t.response.rangeFree = true) : Steady (repeatedAll s templates) := by
  induction templates with
  | nil => exact .pure _
  | cons first rest ih =>
    refine (steady_repeated (h first (.head _)) _).bind fun _ => ?_
    exact (ih fun t mem => h t (.tail _ mem)).bind fun _ => .pure _

theorem steady_authored {responses : List Response} (h : ∀ r ∈ responses, r.rangeFree = true)
    (switched : Bool) : Steady (authored s switched responses) := by
  induction responses generalizing switched with
  | nil => exact .pure _
  | cons r rest ih =>
    have others := ih fun r' mem => h r' (.tail _ mem)
    obtain ⟨visible, -, -⟩ := Response.rangeFree_iff.1 (h r (.head _))
    unfold authored
    split
    · exact others switched
    · refine (steady_holds visible).bind fun due => ?_
      cases due with
      | true => exact (others _).bind fun _ => .pure _
      | false => exact others switched

/-- What is visible of a topic without ranges draws nothing. -/
theorem steady_visible {t : Topic} (h : t.rangeFree = true) : Steady (visible s t) := by
  unfold Topic.rangeFree at h
  simp only [Bool.and_eq_true, List.all_eq_true] at h
  obtain ⟨⟨-, authored⟩, repeated⟩ := h
  refine (steady_repeatedAll repeated).bind fun _ => ?_
  exact (steady_authored authored false).bind fun _ => .pure _

end Session

end

end Parley
