import Parley.Proofs.Assignment

/-!
# Saturation

Arithmetic stops at the ends of the 64-bit range: every step of the evaluation of a formula, and
every assignment, makes the exact result of its operator, or the end of the range that is nearest to
it. There is one exception. The least integer divided by minus one is the least integer again, where
its negation is the greatest one.
-/

namespace Parley

/-! ### Exact results -/

/-- The exact result of an operator that takes any number of arguments, for two of them. -/
def FoldOp.exact : FoldOp → Int → Int → Int
  | .add, a, b => a + b
  | .mul, a, b => a * b
  | .min, a, b => Min.min a b
  | .max, a, b => Max.max a b

/-- The exact result of an operator that takes two arguments. A quotient is rounded toward zero, and
a remainder has the sign of the dividend. -/
def BinaryOp.exact : BinaryOp → Int → Int → Int
  | .sub, a, b => a - b
  | .div, a, b => a.tdiv b
  | .rem, a, b => a.tmod b

/-- The exact result of an operator that takes one argument. -/
def UnaryOp.exact : UnaryOp → Int → Int
  | .abs, a => a.natAbs
  | .neg, a => -a

/-- The exact result of an assignment. -/
def AssignOp.exact : AssignOp → (current given : Int) → Int
  | .set, _, b => b
  | .add, a, b => a + b
  | .sub, a, b => a - b
  | .mul, a, b => a * b
  | .div, a, b => a.tdiv b
  | .rem, a, b => a.tmod b

/-! ### Quotients and remainders -/

section

variable {a b n : Int64}

/-- A quotient is the exact one, brought into the range, unless the least integer is divided by
minus one. -/
theorem div_eq_clamp64_iff :
    a / b = clamp64 (a.toInt.tdiv b.toInt) ↔ ¬(a = Int64.minValue ∧ b = -1) := by
  by_cases least : a = Int64.minValue ∧ b = -1
  · obtain ⟨rfl, rfl⟩ := least
    exact iff_of_false (by decide) (not_not_intro ⟨rfl, rfl⟩)
  · have same : (a / b).toInt = a.toInt.tdiv b.toInt := by
      rcases Decidable.not_and_iff_or_not.1 least with h | h
      · exact Int64.toInt_div_of_ne_left a b h
      · exact Int64.toInt_div_of_ne_right a b h
    apply iff_of_true _ least
    rw [← same, clamp64_toInt]

/-- A remainder is always in range. -/
theorem rem_eq_clamp64 : a % b = clamp64 (a.toInt.tmod b.toInt) := by
  rw [← Int64.toInt_mod, clamp64_toInt]

/-! ### Single steps -/

/-- Sums and products saturate, and the lesser and the greater are in range anyway. -/
theorem FoldOp.step_eq_clamp64 (op : FoldOp) :
    op.step a b = clamp64 (op.exact a.toInt b.toInt) := by
  cases op with
  | add | mul => rfl
  | min =>
    simp only [exact, ← toInt_min64, clamp64_toInt]
    rfl
  | max =>
    simp only [exact, ← toInt_max64, clamp64_toInt]
    rfl

theorem UnaryOp.apply_eq_clamp64 (op : UnaryOp) : op.apply a = clamp64 (op.exact a.toInt) := by
  cases op <;> rfl

/-- A binary operator saturates but for the quotient of the smallest integer and minus one. -/
theorem BinaryOp.eq_clamp64_iff {op : BinaryOp} (h : op.apply a b = .ok n) :
    n = clamp64 (op.exact a.toInt b.toInt) ↔
      ¬(op = .div ∧ a = Int64.minValue ∧ b = -1) := by
  cases op with
  | sub =>
    cases h
    exact iff_of_true rfl nofun
  | div =>
    simp only [apply] at h
    split at h
    · contradiction
    · cases h
      exact div_eq_clamp64_iff.trans (not_congr (and_iff_right rfl).symm)
  | rem =>
    simp only [apply] at h
    split at h
    · contradiction
    · cases h
      exact iff_of_true rem_eq_clamp64 nofun

/-- Assigning with an operator makes what a formula with the operator makes. -/
theorem AssignOp.eq_clamp64_iff {op : AssignOp} (h : op.apply a b = .ok n) :
    n = clamp64 (op.exact a.toInt b.toInt) ↔
      ¬(op = .div ∧ a = Int64.minValue ∧ b = -1) := by
  cases op with
  | set =>
    cases h
    exact iff_of_true (clamp64_toInt b).symm nofun
  | add | sub | mul =>
    cases h
    exact iff_of_true rfl nofun
  | div =>
    have divided : BinaryOp.div.apply a b = .ok n := h
    exact (BinaryOp.eq_clamp64_iff divided).trans (by simp)
  | rem =>
    have divided : BinaryOp.rem.apply a b = .ok n := h
    exact (BinaryOp.eq_clamp64_iff divided).trans (by simp)

end

/-! ### The steps of an evaluation -/

namespace Formula

/-- A step of an evaluation: an operator, what it was applied to, and what it made of that. -/
inductive Step where
  | fold (op : FoldOp) (left right result : Int64)
  | binary (op : BinaryOp) (left right result : Int64)
  | unary (op : UnaryOp) (arg result : Int64)
deriving DecidableEq, Repr

namespace Step

/-- What the operator made. -/
def result : Step → Int64
  | .fold _ _ _ n | .binary _ _ _ n | .unary _ _ n => n

/-- What the operator would make in exact arithmetic. -/
def exact : Step → Int
  | .fold op a b _ => op.exact a.toInt b.toInt
  | .binary op a b _ => op.exact a.toInt b.toInt
  | .unary op a _ => op.exact a.toInt

/-- The result is the exact one, brought into the 64-bit range. -/
def Saturates (step : Step) : Prop := step.result = clamp64 step.exact

instance (step : Step) : Decidable step.Saturates :=
  inferInstanceAs (Decidable (step.result = clamp64 step.exact))

/-- The least integer is divided by minus one. -/
def Wraps : Step → Prop
  | .binary op a b _ => op = .div ∧ a = Int64.minValue ∧ b = -1
  | _ => False

/-- The result is what the operator makes of what it was applied to. -/
def Made : Step → Prop
  | .fold op a b n => op.step a b = n
  | .binary op a b n => op.apply a b = .ok n
  | .unary op a n => op.apply a = n

/-- A step that was made saturates or wraps around. -/
theorem Made.saturates_iff {step : Step} (h : step.Made) : step.Saturates ↔ ¬step.Wraps := by
  cases step with
  | fold op a b n =>
    obtain rfl : op.step a b = n := h
    exact iff_of_true op.step_eq_clamp64 not_false
  | binary op a b n => exact BinaryOp.eq_clamp64_iff h
  | unary op a n =>
    obtain rfl : op.apply a = n := h
    exact iff_of_true op.apply_eq_clamp64 not_false

end Step

/-- The steps in which integers are combined one after the other. -/
def foldSteps (op : FoldOp) : Int64 → List Int64 → List Step
  | _, [] => []
  | acc, n :: rest => .fold op acc n (op.step acc n) :: foldSteps op (op.step acc n) rest

/-! An evaluation that records its steps in the order in which they are taken. -/

section

variable {α β : Type} [Actor α] [Actor β] (s : Scene α β)

mutual

/-- The value of a formula, and the steps in which it is reached. -/
def trace : Formula → Draw (Int64 × List Step)
  | .ref value => do
    let n ← value.evaluate s
    return (n, [])
  | .fold op first rest => do
    let (a, steps) ← first.trace
    let (values, more) ← traceAll rest
    return (values.foldl op.step a, steps ++ more ++ foldSteps op a values)
  | .binary op left right => do
    let (a, steps) ← left.trace
    let (b, more) ← right.trace
    let n ← Draw.ofExcept (op.apply a b)
    return (n, steps ++ more ++ [.binary op a b n])
  | .unary op arg => do
    let (a, steps) ← arg.trace
    return (op.apply a, steps ++ [.unary op a (op.apply a)])

/-- The values of formulas, and the steps in which they are reached. -/
def traceAll : List Formula → Draw (List Int64 × List Step)
  | [] => return ([], [])
  | f :: rest => do
    let (n, steps) ← f.trace
    let (values, more) ← traceAll rest
    return (n :: values, steps ++ more)

end

end

mutual

/-- How many times an operator of a formula is applied. -/
def applications : Formula → Nat
  | .ref _ => 0
  | .fold _ first rest => first.applications + applicationsAll rest + rest.length
  | .binary _ left right => left.applications + right.applications + 1
  | .unary _ arg => arg.applications + 1

/-- How many times an operator of some formulas is applied. -/
def applicationsAll : List Formula → Nat
  | [] => 0
  | f :: rest => f.applications + applicationsAll rest

end

variable {α β : Type} [Actor α] [Actor β] {s : Scene α β}

mutual

/-- Recording the steps makes no difference to the evaluation. -/
theorem evaluate_eq_trace (f : Formula) : f.evaluate s = Prod.fst <$> f.trace s := by
  match f with
  | .ref value => simp only [evaluate, trace, map_bind, map_pure, bind_pure]
  | .fold op first rest =>
    simp only [evaluate, trace, evaluate_eq_trace first, evaluateAll_eq_traceAll rest, map_bind,
      bind_map_left, map_pure]
  | .binary op left right =>
    simp only [evaluate, trace, evaluate_eq_trace left, evaluate_eq_trace right, map_bind,
      bind_map_left, map_pure, bind_pure]
  | .unary op arg =>
    simp only [evaluate, trace, evaluate_eq_trace arg, map_bind, bind_map_left, map_pure]

theorem evaluateAll_eq_traceAll (fs : List Formula) :
    evaluateAll s fs = Prod.fst <$> traceAll s fs := by
  match fs with
  | [] => simp only [evaluateAll, traceAll, map_pure]
  | f :: rest =>
    simp only [evaluateAll, traceAll, evaluate_eq_trace f, evaluateAll_eq_traceAll rest, map_bind,
      bind_map_left, map_pure]

end

/-- Of a formula that comes to a value, the steps come with it. -/
theorem comesTo_iff_trace {f : Formula} {g g' : Generator} {n : Int64} :
    (f.evaluate s).ComesTo g n g' ↔ ∃ steps, (f.trace s).ComesTo g (n, steps) g' := by
  rw [evaluate_eq_trace, map_eq_pure_bind, Draw.comesTo_bind]
  constructor
  · rintro ⟨⟨n', steps⟩, g₁, traced, h⟩
    cases h
    exact ⟨steps, traced⟩
  · rintro ⟨steps, traced⟩
    exact ⟨(n, steps), g', traced, rfl⟩

theorem length_foldSteps (op : FoldOp) (acc : Int64) (values : List Int64) :
    (foldSteps op acc values).length = values.length := by
  induction values generalizing acc with
  | nil => rfl
  | cons n rest ih => simp only [foldSteps, List.length_cons, ih]

/-- Each step of a fold was made by its operator. -/
theorem made_foldSteps (op : FoldOp) (acc : Int64) (values : List Int64) :
    ∀ step ∈ foldSteps op acc values, step.Made := by
  induction values generalizing acc with
  | nil => exact List.forall_mem_nil _
  | cons n rest ih => exact List.forall_mem_cons.2 ⟨rfl, ih _⟩

mutual

/-- A trace has a step for every application of an operator, and only steps that the operators
make. -/
theorem trace_spec {f : Formula} {g g' : Generator} {n : Int64} {steps : List Step}
    (h : (f.trace s).ComesTo g (n, steps) g') :
    steps.length = f.applications ∧ ∀ step ∈ steps, step.Made := by
  match f with
  | .ref value =>
    simp only [trace, Draw.comesTo_bind] at h
    obtain ⟨n', g₁, -, h⟩ := h
    cases h
    exact ⟨rfl, List.forall_mem_nil _⟩
  | .fold op first rest =>
    simp only [trace, Draw.comesTo_bind] at h
    obtain ⟨⟨a, steps⟩, g₁, one, ⟨values, more⟩, g₂, all, h⟩ := h
    cases h
    obtain ⟨length, made⟩ := trace_spec one
    obtain ⟨count, lengthAll, madeAll⟩ := traceAll_spec all
    simp only [List.length_append, List.forall_mem_append, length_foldSteps, applications, length,
      count, lengthAll, true_and]
    exact ⟨⟨made, madeAll⟩, made_foldSteps op a values⟩
  | .binary op left right =>
    simp only [trace, Draw.comesTo_bind, Draw.comesTo_ofExcept] at h
    obtain ⟨⟨a, steps⟩, g₁, one, ⟨b, more⟩, g₂, two, n', g₃, ⟨applied, -⟩, h⟩ := h
    cases h
    obtain ⟨length, made⟩ := trace_spec one
    obtain ⟨length', made'⟩ := trace_spec two
    simp only [List.length_append, List.forall_mem_append, List.forall_mem_singleton,
      List.length_singleton, applications, length, length', true_and]
    exact ⟨⟨made, made'⟩, applied⟩
  | .unary op arg =>
    simp only [trace, Draw.comesTo_bind] at h
    obtain ⟨⟨a, steps⟩, g₁, one, h⟩ := h
    cases h
    obtain ⟨length, made⟩ := trace_spec one
    simp only [List.length_append, List.forall_mem_append, List.forall_mem_singleton,
      List.length_singleton, applications, length, true_and]
    exact ⟨made, rfl⟩

/-- Evaluating formulas makes one step for each application of an operator in them. -/
theorem traceAll_spec {fs : List Formula} {g g' : Generator} {values : List Int64}
    {steps : List Step} (h : (traceAll s fs).ComesTo g (values, steps) g') :
    values.length = fs.length ∧ steps.length = applicationsAll fs ∧ ∀ step ∈ steps, step.Made := by
  match fs with
  | [] =>
    cases h
    exact ⟨rfl, rfl, List.forall_mem_nil _⟩
  | f :: rest =>
    simp only [traceAll, Draw.comesTo_bind] at h
    obtain ⟨⟨a, steps⟩, g₁, one, ⟨values, more⟩, g₂, all, h⟩ := h
    cases h
    obtain ⟨length, made⟩ := trace_spec one
    obtain ⟨count, lengthAll, madeAll⟩ := traceAll_spec all
    simp only [List.length_cons, List.length_append, List.forall_mem_append, applicationsAll,
      length, count, lengthAll, true_and]
    exact ⟨made, madeAll⟩

end

/-! ### Dividing by minus one -/

/-- The formula that stands for minus one. -/
def minusOne : Formula := .ref (.literal (-1))

/-- Dividing by minus one negates, but for the smallest integer. -/
theorem div_neg_one_eq_iff {a : Int64} : a / -1 = neg64 a ↔ a ≠ Int64.minValue := by
  have negated : a.toInt.tdiv (-1 : Int64).toInt = -a.toInt := by
    rw [show (-1 : Int64).toInt = -1 from rfl, Int.tdiv_neg, Int.tdiv_one]
  rw [neg64, ← negated, div_eq_clamp64_iff, and_iff_left rfl]

/-- Dividing a formula by minus one turns out as its negation does, unless the formula comes to the
least integer. -/
theorem div_minusOne_iff (f : Formula) (g : Generator) :
    ((Formula.binary .div f minusOne).evaluate s).run.run g =
        ((Formula.unary .neg f).evaluate s).run.run g ↔
      ∀ g', ¬(f.evaluate s).ComesTo g Int64.minValue g' := by
  have quotient : (Formula.binary .div f minusOne).evaluate s =
      f.evaluate s >>= fun a => pure (a / -1) := by
    simp only [evaluate]
    rfl
  have negation : (Formula.unary .neg f).evaluate s = f.evaluate s >>= fun a => pure (neg64 a) := by
    simp only [evaluate]
    rfl
  rw [quotient, negation, Draw.run_bind, Draw.run_bind]
  cases h : (f.evaluate s).run.run g with | mk result g₁
  cases result with
  | error failure =>
    apply iff_of_true rfl
    intro g' comes
    cases h.symm.trans comes
  | ok a =>
    have same : (pure (a / -1) : Draw Int64).run.run g₁ = (pure (neg64 a) : Draw Int64).run.run g₁ ↔
        a ≠ Int64.minValue := by
      rw [← div_neg_one_eq_iff]
      exact ⟨fun h => Except.ok.inj (congrArg Prod.fst h), fun h => by rw [h]⟩
    apply same.trans
    constructor
    · intro other g' comes
      cases h.symm.trans comes
      exact other rfl
    · rintro never rfl
      exact never g₁ h

/-! ### All arithmetic -/

/-- In every scene and state of the random generator, each step in the evaluation of a formula
saturates, and so does the assignment of the formula with any operator, unless the least integer is
divided by minus one. The quotient of a formula and minus one turns out as the negation of the
formula does, unless that comes to the least integer. -/
theorem arithmetic_saturates_iff (s : Scene α β) (f : Formula) (g : Generator) :
    (∀ n g', (f.evaluate s).ComesTo g n g' →
      (∃ steps, (f.trace s).ComesTo g (n, steps) g' ∧ steps.length = f.applications ∧
        ∀ step ∈ steps, step.Made ∧ (step.Saturates ↔ ¬step.Wraps)) ∧
      ∀ var op t handoff enc',
        (Effect.execute ⟨.arithmetic var op f, t⟩).Succeeds ⟨s, g, handoff⟩ () enc' →
          ∃ current result, s.integer var = .ok current ∧
            s.write var (some (toString result.toInt)) = .ok enc'.scene ∧
            (result = clamp64 (op.exact current.toInt n.toInt) ↔
              ¬(op = .div ∧ current = Int64.minValue ∧ n = -1))) ∧
    (((Formula.binary .div f minusOne).evaluate s).run.run g =
        ((Formula.unary .neg f).evaluate s).run.run g ↔
      ∀ g', ¬(f.evaluate s).ComesTo g Int64.minValue g') := by
  refine ⟨fun n g' evaluated => ⟨?_, ?_⟩, div_minusOne_iff f g⟩
  · obtain ⟨steps, traced⟩ := comesTo_iff_trace.1 evaluated
    obtain ⟨length, made⟩ := trace_spec traced
    exact ⟨steps, traced, length, fun step mem => ⟨made step mem, (made step mem).saturates_iff⟩⟩
  · intro var op t handoff enc' assigned
    obtain ⟨given, g₁, current, result, s', evaluated', read, applied, written, rfl⟩ :=
      Effect.succeeds_assignment.1 assigned
    cases evaluated.symm.trans evaluated'
    exact ⟨current, result, read, written, AssignOp.eq_clamp64_iff applied⟩

/-- The absolute value of the least integer and a negative quotient are added up in three steps,
and the sum is taken off a global variable. -/
theorem sum_taken_off_saturates :
    let f : Formula := .fold .add (.unary .abs (.ref (.literal Int64.minValue)))
      [.binary .div (.ref (.literal 7)) (.ref (.literal (-2)))]
    let s : Scene Player Npc :=
      { u := .ofSheet (.new "Bob"), npc := .ofSheet (.new "Ann")
        globals := .insert .empty "debt" "-5", current := { id := "TALK" }, earlier := []
        missionsAssigned := [], byRadio := false }
    let g := Generator.ofSeed 0
    let taking : Effect := ⟨.arithmetic ⟨.global, "debt"⟩ .sub f, .u⟩
    let enc' := (taking.execute.perform ⟨s, g, none⟩).2
    (f.evaluate s).ComesTo g 9223372036854775804 g ∧
      taking.execute.Succeeds ⟨s, g, none⟩ () enc' ∧
      (∃ steps, (f.trace s).ComesTo g (9223372036854775804, steps) g ∧ steps.length = 3 ∧
        ∀ step ∈ steps, step.Made ∧ (step.Saturates ↔ ¬step.Wraps)) ∧
      ∃ result, s.write ⟨.global, "debt"⟩ (some (toString result.toInt)) = .ok enc'.scene ∧
        result = Int64.minValue := by
  intro f s g taking enc'
  have comes : (f.evaluate s).ComesTo g 9223372036854775804 g := rfl
  have succeeds : taking.execute.Succeeds ⟨s, g, none⟩ () enc' := rfl
  obtain ⟨steps, assigned⟩ := (arithmetic_saturates_iff s f g).1 _ _ comes
  obtain ⟨current, result, read, written, saturates⟩ := assigned _ _ _ _ _ succeeds
  obtain rfl : -5 = current := Except.ok.inj read
  exact ⟨comes, succeeds, steps, result, written, saturates.2 (by decide)⟩

/-- The least integer over minus one is the least integer, both as a formula and as an assignment,
where the exact quotient is nearest to the greatest one, to which the negation comes. -/
theorem least_over_minus_one_wraps :
    let least : Formula := .ref (.literal Int64.minValue)
    let s : Scene Player Npc :=
      { u := .ofSheet (.new "Bob"), npc := .ofSheet (.new "Ann"), globals := .empty
        current := { id := "TALK" }, earlier := [], missionsAssigned := [], byRadio := false }
    let g := Generator.ofSeed 0
    let step : Step := .binary .div Int64.minValue (-1) Int64.minValue
    ((Formula.binary .div least minusOne).trace s).ComesTo g (Int64.minValue, [step]) g ∧
      ¬step.Saturates ∧
      ((Formula.unary .neg least).evaluate s).ComesTo g Int64.maxValue g ∧
      AssignOp.div.apply Int64.minValue (-1) = .ok Int64.minValue ∧
      clamp64 (AssignOp.div.exact Int64.minValue.toInt (-1 : Int64).toInt) = Int64.maxValue :=
  ⟨rfl, by decide, rfl, rfl, by decide⟩

end Formula

end Parley
