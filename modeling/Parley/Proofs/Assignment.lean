import Parley.Proofs.Decimal
import Parley.Proofs.Stores

/-!
# Assignments

An effect may assign to a variable, with an operator or without. With an operator it does what the
plain assignment of a formula with that operator does, and to adjust a variable is to assign with a
plus sign. Every assignment reads the variable before it writes it, so even a plain one fails where
the variable holds a text that is no integer.
-/

namespace Parley

/-! ### Operators -/

/-- An operator that can stand between two formulas and before the sign of an assignment. -/
inductive Operator where
  | add
  | sub
  | mul
  | div
  | rem
deriving DecidableEq, Repr

namespace Operator

/-- The symbol of an operator. -/
def symbol : Operator → String
  | .add => "+"
  | .sub => "-"
  | .mul => "*"
  | .div => "/"
  | .rem => "%"

/-- The assignment with an operator. -/
def assign : Operator → AssignOp
  | .add => .add
  | .sub => .sub
  | .mul => .mul
  | .div => .div
  | .rem => .rem

/-- The formula with an operator between two others. -/
def between (left right : Formula) : Operator → Formula
  | .add => .fold .add left [right]
  | .sub => .binary .sub left right
  | .mul => .fold .mul left [right]
  | .div => .binary .div left right
  | .rem => .binary .rem left right

/-- An assignment with an operator is written with an equals sign behind the operator. -/
theorem symbol_assign (op : Operator) : op.assign.symbol = op.symbol ++ "=" := by
  cases op <;> rfl

/-- A formula with an operator is what content writes with its symbol and two arguments. -/
theorem table_symbol (op : Operator) (left right : Formula) :
    ((Formula.AnyOp.table.lookup op.symbol).bind fun o => o.apply? [left, right]) =
      some (op.between left right) := by
  cases op <;> rfl

end Operator

section

variable {α β : Type} [Actor α] [Actor β] {s s' : Scene α β} {var : Variable}
  {g g' : Generator} {n : Int64}

/-- The integer that is stored for a variable is what a reference with the default zero reads. -/
theorem IntRef.evaluate_stored_zero (s : Scene α β) (var : Variable) :
    IntRef.evaluate s (.single (.stored var 0)) = Draw.ofExcept (s.integer var) := rfl

/-- The arguments of an operator are evaluated from left to right, and then combined as in an
assignment. -/
theorem Operator.evaluate_between (op : Operator) (left right : Formula) (s : Scene α β) :
    (op.between left right).evaluate s = (do
      let a ← left.evaluate s
      let b ← right.evaluate s
      Draw.ofExcept (op.assign.apply a b)) := by
  cases op with
  | add | mul =>
    simp only [between, Formula.evaluate, Formula.evaluateAll, pure_bind, bind_assoc]
    rfl
  | sub | div | rem => simp only [between, Formula.evaluate]; rfl

/-- A formula with an operator behind a variable comes to what the assignment with the operator
makes of the integer that is stored for the variable. -/
theorem Operator.comesTo_between_stored {op : Operator} {f : Formula} :
    ((op.between (.ref (.single (.stored var 0))) f).evaluate s).ComesTo g n g' ↔
      ∃ current given, s.integer var = .ok current ∧ (f.evaluate s).ComesTo g given g' ∧
        op.assign.apply current given = .ok n := by
  rw [evaluate_between, Formula.evaluate, IntRef.evaluate_stored_zero]
  simp only [Draw.comesTo_bind, Draw.comesTo_ofExcept]
  constructor
  · rintro ⟨current, g₁, ⟨stored, rfl⟩, given, g₂, evaluated, applied, rfl⟩
    exact ⟨current, given, stored, evaluated, applied⟩
  · rintro ⟨current, given, stored, evaluated, applied⟩
    exact ⟨current, g, ⟨stored, rfl⟩, given, g', evaluated, applied, rfl⟩

end

/-! ### What variables hold -/

/-- A text that stands for no integer is named in the failure. -/
theorem Variable.decode_eq_error {var : Variable} {expected : Expected} {text : String}
    (h : ∀ n, var.decode expected text ≠ .ok n) :
    var.decode expected text = .error (.variableText var.name text expected) := by
  unfold decode at h ⊢
  split
  · rename_i n read
    rw [read] at h
    exact absurd rfl (h n)
  · rfl

namespace Scene

variable {α β : Type} [Actor α] [Actor β] {s s' : Scene α β} {var : Variable}
  {value : Option String} {n : Int64}

/-- Nothing is stored for a variable, or an empty text. -/
def Unset (s : Scene α β) (var : Variable) : Prop :=
  ∀ text, s.read var = .ok (some text) → text = ""

/-- A variable holds nothing, or an empty text, or a text that writes an integer. -/
def HoldsInteger (s : Scene α β) (var : Variable) : Prop :=
  ∀ text, s.read var = .ok (some text) → text ≠ "" → ∃ n, var.decode .integer text = .ok n

/-- An empty text counts as none. -/
theorem readText_of_read (h : s.read var = .ok value) :
    s.readText var = .ok (value.filter (· ≠ "")) := by
  rw [readText, h]
  rfl

/-- A text that is not empty is read as it is stored. -/
theorem readText_of_ne_empty {text : String} (h : s.read var = .ok (some text)) (ne : text ≠ "") :
    s.readText var = .ok (some text) :=
  (readText_of_read h).trans (congrArg Except.ok (Option.filter_some_pos (decide_eq_true ne)))

theorem Unset.readText (unset : s.Unset var) (h : s.read var = .ok value) :
    s.readText var = .ok none := by
  rw [readText_of_read h]
  cases value with
  | none => rfl
  | some text =>
    rw [unset text h]
    rfl

theorem integer_of_readText (h : s.readText var = .ok value) :
    s.integer var = value.elim (.ok 0) (var.decode .integer) := by
  rw [integer, h]
  cases value <;> rfl

/-- Of a supported variable an integer can be read exactly where its text, if it has one, writes an
integer. -/
theorem integer_eq_ok_iff (stored : var.scope.isSupported = true) :
    (∃ n, s.integer var = .ok n) ↔ s.HoldsInteger var := by
  by_cases unset : s.Unset var
  · obtain ⟨value, read⟩ := (exists_read_iff s).2 stored
    rw [integer_of_readText (unset.readText read)]
    exact iff_of_true ⟨0, rfl⟩ fun text h ne => absurd (unset text h) ne
  · obtain ⟨text, read, ne⟩ : ∃ text, s.read var = .ok (some text) ∧ text ≠ "" := by
      simpa [Unset] using unset
    rw [integer_of_readText (readText_of_ne_empty read ne)]
    constructor
    · rintro holds text' h -
      obtain rfl := Option.some.inj (Except.ok.inj (read.symm.trans h))
      exact holds
    · exact fun holds => holds text read ne

/-- An operand reads an integer where the variable holds its decimal form. -/
theorem evaluate_operand (h : s.read var = .ok (some (toString n.toInt))) (default : Int64) :
    Operand.evaluate (Variable.decode .integer) s (.stored var default) = .ok n := by
  rw [Operand.evaluate, readText_of_ne_empty h (toString_ne_empty n.toInt)]
  exact var.decode_toString .integer n

/-- A reference reads an integer where the variable holds its decimal form. -/
theorem evaluate_stored (h : s.read var = .ok (some (toString n.toInt))) (default : Int64) :
    IntRef.evaluate s (.single (.stored var default)) = pure n := by
  rw [IntRef.evaluate, evaluate_operand h]
  rfl

end Scene

/-! ### Runs of an assignment -/

namespace Effect

open Act

variable {α β : Type} [Actor α] [Actor β] {enc enc' : Encounter α β} {var : Variable}
  {op : AssignOp} {f : Formula} {t : Target}

/-- An assignment evaluates its formula, reads the variable, combines the two, and writes the
variable. -/
theorem succeeds_assignment :
    (execute ⟨.arithmetic var op f, t⟩).Succeeds enc () enc' ↔
      ∃ given g current result s, (f.evaluate enc.scene).ComesTo enc.generator given g ∧
        enc.scene.integer var = .ok current ∧ op.apply current given = .ok result ∧
        enc.scene.write var (some (toString result.toInt)) = .ok s ∧
        enc' = { enc with scene := s, generator := g } := by
  have steps : (execute ⟨.arithmetic var op f, t⟩ : Act α β Unit) = (do
      let given ← evaluate fun s => f.evaluate s
      let current ← stored var
      let result ← look fun _ => op.apply current given
      store var result) := rfl
  rw [steps]
  constructor
  · intro h
    obtain ⟨given, e₁, first, h⟩ := succeeds_bind.1 h
    obtain ⟨g, evaluated, rfl⟩ := succeeds_evaluate.1 first
    obtain ⟨current, e₂, second, h⟩ := succeeds_bind.1 h
    obtain ⟨read, rfl⟩ := succeeds_look.1 second
    obtain ⟨result, e₃, third, h⟩ := succeeds_bind.1 h
    obtain ⟨applied, rfl⟩ := succeeds_look.1 third
    obtain ⟨s, written, rfl⟩ := succeeds_write.1 h
    exact ⟨given, g, current, result, s, evaluated, read, applied, written, rfl⟩
  · rintro ⟨given, g, current, result, s, evaluated, read, applied, written, rfl⟩
    refine succeeds_bind.2 ⟨given, { enc with generator := g }, ?_, ?_⟩
    · exact succeeds_evaluate.2 ⟨g, evaluated, rfl⟩
    refine succeeds_bind.2 ⟨current, _, succeeds_look.2 ⟨read, rfl⟩, ?_⟩
    refine succeeds_bind.2 ⟨result, _, succeeds_look.2 ⟨applied, rfl⟩, ?_⟩
    exact succeeds_write.2 ⟨s, written, rfl⟩

/-- An assignment that fails has changed nothing but the random generator. -/
theorem clean_assignment : (execute ⟨.arithmetic var op f, t⟩ : Act α β Unit).Clean := by
  refine looks_evaluate.bind_clean fun given => looks_stored.bind_clean fun current => ?_
  exact looks_look.bind_clean fun result => clean_store

/-- The assignment of a formula with an operator behind the variable itself does what the assignment
with the operator does: it takes place in the same encounters and leaves the same behind. Where they
fail, they have changed nothing but the random generator. To adjust a variable turns out in every
encounter as the assignment with a plus sign does, failures included. -/
theorem assignments_agree (op : Operator) (var : Variable) (f : Formula) (ref : IntRef)
    (t t' : Target) (enc : Encounter α β) :
    let short : Effect := ⟨.arithmetic var op.assign f, t⟩
    let long : Effect :=
      ⟨.arithmetic var .set (op.between (.ref (.single (.stored var 0))) f), t'⟩
    let adjustment : Effect := ⟨.adjustVar var ref, t⟩
    let increase : Effect := ⟨.arithmetic var .add (.ref ref), t'⟩
    (∀ enc', short.execute.Succeeds enc () enc' ↔ long.execute.Succeeds enc () enc') ∧
      (∀ failure enc', short.execute.Fails enc failure enc' ∨ long.execute.Fails enc failure enc' →
        enc.Alike enc') ∧
      adjustment.execute.perform enc = increase.execute.perform enc := by
  intro short long adjustment increase
  refine ⟨fun enc' => ?_, fun failure enc' failed => ?_, ?_⟩
  · rw [succeeds_assignment, succeeds_assignment]
    simp only [Operator.comesTo_between_stored]
    constructor
    · rintro ⟨given, g, current, result, s, evaluated, read, applied, written⟩
      exact ⟨result, g, current, result, s, ⟨current, given, read, evaluated, applied⟩, read, rfl,
        written⟩
    · rintro ⟨result, g, _, _, s, ⟨current, given, read, evaluated, applied⟩, -, same, written⟩
      obtain rfl := Except.ok.inj same
      exact ⟨given, g, current, result, s, evaluated, read, applied, written⟩
  · rcases failed with failed | failed
    · exact clean_assignment enc failure enc' failed
    · exact clean_assignment enc failure enc' failed
  · -- Step by step the same: a sum is always there.
    rfl

/-- A plain assignment takes place exactly if the variable has a store, the formula has a value, and
what the variable holds already is an integer, too. The variable then holds the decimal form of the
value, and as long as it does every reference to it reads the value. Where it holds another text,
the assignment fails for that text, with a formula that has a value. -/
theorem plain_assignment_iff [Actor.InMemory α] [Actor.InMemory β] (var : Variable) (f : Formula)
    (t : Target) (enc : Encounter α β) :
    let assignment : Effect := ⟨.arithmetic var .set f, t⟩
    ((∃ enc', assignment.execute.Succeeds enc () enc') ↔
      var.scope.isSupported = true ∧ (∃ n g, (f.evaluate enc.scene).ComesTo enc.generator n g) ∧
        enc.scene.HoldsInteger var) ∧
      ∀ n g, (f.evaluate enc.scene).ComesTo enc.generator n g →
        (∀ enc', assignment.execute.Succeeds enc () enc' →
          enc'.scene.read var = .ok (some (toString n.toInt)) ∧
            ∀ s : Scene α β, s.read var = enc'.scene.read var → ∀ default,
              IntRef.evaluate s (.single (.stored var default)) = pure n) ∧
        ∀ text, enc.scene.read var = .ok (some text) → text ≠ "" →
          (∀ n, var.decode .integer text ≠ .ok n) →
            assignment.execute.Fails enc (.variableText var.name text .integer)
              { enc with generator := g } := by
  intro assignment
  constructor
  · constructor
    · rintro ⟨enc', h⟩
      obtain ⟨given, g, current, result, s, evaluated, read, -, written, -⟩ :=
        succeeds_assignment.1 h
      have stored := (Scene.exists_write_iff enc.scene _).1 ⟨s, written⟩
      exact ⟨stored, ⟨given, g, evaluated⟩, (Scene.integer_eq_ok_iff stored).1 ⟨current, read⟩⟩
    · rintro ⟨stored, ⟨given, g, evaluated⟩, holds⟩
      obtain ⟨current, read⟩ := (Scene.integer_eq_ok_iff stored).2 holds
      obtain ⟨s, written⟩ :=
        (Scene.exists_write_iff enc.scene (some (toString given.toInt))).2 stored
      exact ⟨_, succeeds_assignment.2 ⟨given, g, current, given, s, evaluated, read, rfl, written,
        rfl⟩⟩
  · intro n g evaluated
    constructor
    · intro enc' h
      obtain ⟨given, g', current, result, s', evaluated', -, applied, written, rfl⟩ :=
        succeeds_assignment.1 h
      cases evaluated.symm.trans evaluated'
      obtain rfl := Except.ok.inj applied
      have holds := Scene.read_write written
      exact ⟨holds, fun s same => Scene.evaluate_stored (same.trans holds)⟩
    · intro text read ne other
      have blocked : enc.scene.integer var = .error (.variableText var.name text .integer) := by
        rw [Scene.integer_of_readText (Scene.readText_of_ne_empty read ne)]
        exact Variable.decode_eq_error other
      refine fails_bind.2 (.inr ⟨n, { enc with generator := g }, ?_, fails_bind.2 (.inl ?_)⟩)
      · exact succeeds_evaluate.2 ⟨g, evaluated, rfl⟩
      · exact congrArg (·, { enc with generator := g }) blocked

/-- A count that holds a word cannot be set to five. -/
theorem word_blocks_assignment :
    let count : Variable := ⟨.global, "count"⟩
    let five : Formula := .ref (.single (.literal 5))
    let enc : Encounter Player Npc :=
      { scene :=
          { u := .ofSheet (.new "Bob"), npc := .ofSheet (.new "Ann")
            globals := .insert .empty "count" "many", current := { id := "TALK" }, earlier := []
            missionsAssigned := [], byRadio := false }
        generator := .ofSeed 0
        handoff := none }
    (five.evaluate enc.scene).ComesTo enc.generator 5 enc.generator ∧
      ¬∃ enc', (execute ⟨.arithmetic count .set five, .u⟩).Succeeds enc () enc' := by
  intro count five enc
  refine ⟨rfl, ?_⟩
  rintro ⟨enc', h⟩
  obtain ⟨given, g, current, result, s, -, read, -⟩ := succeeds_assignment.1 h
  have blocked : enc.scene.integer count = .error (.variableText "count" "many" .integer) := rfl
  rw [blocked] at read
  contradiction

end Effect

end Parley
