import Parley.Proofs.References
import Parley.Proofs.SheetChange

/-!
# Causes of failure

What can make an evaluation or an effect fail is followed from the references up to the effects. A
value is not found because a variable has no store, because its text does not write what is
expected, or because of a division by zero; an actor may refuse what it is told to do. So content
that was accepted, whose variables all have a store, fails only by the state that it meets.
-/

namespace Parley

variable {α β γ δ : Type}

/-! ### Kinds of failure -/

namespace Failure

/-- A value cannot be had: `vars` are the variables that are looked up for it or written. -/
inductive OfValue (vars : List Variable) : Failure → Prop
  | noStore {var : Variable} (mem : var ∈ vars)
      (unsupported : var.scope = .faction ∨ var.scope = .party) :
      OfValue vars (.unsupportedScope var.scope.name)
  | text {var : Variable} (mem : var ∈ vars) (value : String) (expected : Expected) :
      OfValue vars (.variableText var.name value expected)
  | division : OfValue vars .divisionByZero

/-- The state stands in the way: a variable among `vars` holds a text that does not write what is
expected, or a divisor is zero. -/
def OfStored (vars : List Variable) : Failure → Prop
  | .variableText name _ _ => ∃ var ∈ vars, var.name = name
  | .divisionByZero => True
  | _ => False

/-- An actor does not do what it is told to. -/
def IsRefusal : Failure → Prop
  | .lookup .. | .invalidCount .. | .itemRejected .. | .insufficientFunds .. => True
  | _ => False

/-- Content is at fault, be it by its form or by what it names. -/
def IsOfContent : Failure → Prop
  | .content .. | .missingDefault _ | .unsupportedScope _ | .unknownEffect _ | .unknownCondition _
  | .unknownModifier _ => True
  | _ => False

/-- A value cannot be had, or an actor does not do what it is told to. -/
def OfEffect (vars : List Variable) (failure : Failure) : Prop :=
  failure.OfValue vars ∨ failure.IsRefusal

variable {vars : List Variable} {failure : Failure}

/-- Where all variables have a store, it is the state that stands in the way. -/
theorem OfValue.ofStored (h : failure.OfValue vars) (usable : AllUsable vars) :
    failure.OfStored vars := by
  cases h with
  | noStore mem unsupported =>
    rcases unsupported with faction | party
    · exact (usable _ mem).notFaction faction
    · exact (usable _ mem).notParty party
  | text mem => exact ⟨_, mem, rfl⟩
  | division => trivial

/-- What a variable holds is no fault of the content. -/
theorem OfStored.not_isOfContent (h : failure.OfStored vars) : ¬failure.IsOfContent := by
  cases failure <;> simp_all [OfStored, IsOfContent]

/-- What an actor refuses is no fault of the content. -/
theorem IsRefusal.not_isOfContent (h : failure.IsRefusal) : ¬failure.IsOfContent := by
  cases failure <;> simp_all [IsRefusal, IsOfContent]

end Failure

/-! ### Computations that fail only in some ways -/

section

variable {P Q : Failure → Prop}

/-- Wherever the computation fails, its failure satisfies `P`. -/
def FailsOnly (P : Failure → Prop) (x : Except Failure γ) : Prop :=
  ∀ failure, x = .error failure → P failure

theorem failsOnly_ok {a : γ} : FailsOnly P (.ok a) := nofun

theorem failsOnly_error {failure : Failure} (h : P failure) :
    FailsOnly P (.error failure : Except Failure γ) := by
  intro failure' h'
  cases h'
  exact h

namespace FailsOnly

variable {x y : Except Failure γ}

theorem imp (hx : FailsOnly P x) (h : ∀ failure, P failure → Q failure) : FailsOnly Q x := by
  intro failure hf
  exact h failure (hx failure hf)

theorem ite {p : Prop} [Decidable p] (hx : FailsOnly P x) (hy : FailsOnly P y) :
    FailsOnly P (if p then x else y) := by
  split
  · exact hx
  · exact hy

theorem bind {f : γ → Except Failure δ} (hx : FailsOnly P x) (hf : ∀ a, FailsOnly P (f a)) :
    FailsOnly P (x >>= f) := by
  cases x with
  | ok a => exact hf a
  | error failure => exact failsOnly_error (hx failure rfl)

theorem map {f : γ → δ} (hx : FailsOnly P x) : FailsOnly P (x.map f) := by
  intro failure h
  exact hx failure (map_eq_error.1 h)

end FailsOnly

namespace Draw

/-- However the random numbers fall, if the evaluation fails, the failure satisfies `P`. -/
def FailsOnly (P : Failure → Prop) (m : Draw γ) : Prop := ∀ g, Parley.FailsOnly P (m.run.run g).1

variable {m : Draw γ} {f : γ → Draw δ}

theorem failsOnly_pure {a : γ} : (pure a : Draw γ).FailsOnly P := fun _ => failsOnly_ok

theorem failsOnly_ofExcept {x : Except Failure γ} (h : Parley.FailsOnly P x) :
    (ofExcept x).FailsOnly P := fun _ => h

theorem failsOnly_between {a b : Int64} : (between a b).FailsOnly P := fun _ => failsOnly_ok

theorem FailsOnly.imp (hm : m.FailsOnly P) (h : ∀ failure, P failure → Q failure) :
    m.FailsOnly Q := fun g => (hm g).imp h

theorem FailsOnly.bind (hm : m.FailsOnly P) (hf : ∀ a, (f a).FailsOnly P) :
    (m >>= f).FailsOnly P := by
  intro g failure h
  simp only [ExceptT.run_bind, StateT.run_bind] at h
  have first := hm g
  rcases hr : m.run.run g with ⟨result, g'⟩
  rw [hr] at first h
  cases result with
  | ok a => exact hf a g' failure h
  | error failure' =>
    obtain rfl := Except.error.inj h
    exact first failure' rfl

end Draw

namespace Act

/-- In whatever encounter the deed fails, the failure satisfies `P`. -/
def FailsOnly (P : Failure → Prop) (m : Act α β γ) : Prop :=
  ∀ e, Parley.FailsOnly P (m.perform e).1

variable {m : Act α β γ} {f : γ → Act α β δ}

theorem failsOnly_pure {a : γ} : (pure a : Act α β γ).FailsOnly P := fun _ => failsOnly_ok

theorem failsOnly_evaluate {q : Scene α β → Draw γ} (h : ∀ s, (q s).FailsOnly P) :
    (evaluate q).FailsOnly P := fun e => h e.scene e.generator

theorem failsOnly_look {q : Scene α β → Except Failure γ} (h : ∀ s, Parley.FailsOnly P (q s)) :
    (look q).FailsOnly P := fun e => h e.scene

theorem failsOnly_handOver {h : Handoff} : (handOver h : Act α β Unit).FailsOnly P := fun _ =>
  failsOnly_ok

theorem failsOnly_change {q : Scene α β → Except Failure (Scene α β)}
    (h : ∀ s, Parley.FailsOnly P (q s)) : (change q).FailsOnly P := by
  intro e failure hf
  exact h e.scene failure (fails_change.1 (Prod.ext hf rfl)).1

theorem FailsOnly.imp (hm : m.FailsOnly P) (h : ∀ failure, P failure → Q failure) :
    m.FailsOnly Q := fun e => (hm e).imp h

theorem FailsOnly.bind (hm : m.FailsOnly P) (hf : ∀ a, (f a).FailsOnly P) :
    (m >>= f).FailsOnly P := by
  intro e failure h
  rcases fails_bind.1 (Prod.ext h rfl) with first | ⟨a, e₁, -, second⟩
  · exact hm e failure (congrArg Prod.fst first)
  · exact hf a e₁ failure (congrArg Prod.fst second)

theorem failsOnly_tell [Actor α] [Actor β] {t : Target} {g : {δ : Type} → [Actor δ] → δ → δ} :
    (tell t g : Act α β Unit).FailsOnly P := failsOnly_change fun _ => failsOnly_ok

end Act

end

/-! ### Values -/

section

variable [Actor α] [Actor β] {s : Scene α β} {item : Option String} {vars : List Variable}

open Failure (OfValue)

/-- Reading a variable fails only where its scope has no store. -/
theorem Scene.failsOnly_read {var : Variable} (mem : var ∈ vars) :
    FailsOnly (OfValue vars) (s.read var) := by
  unfold Scene.read
  cases scope : var.scope with
  | global | u | npc => exact failsOnly_ok
  | faction => exact failsOnly_error (scope ▸ .noStore mem (.inl scope))
  | party => exact failsOnly_error (scope ▸ .noStore mem (.inr scope))

theorem Scene.failsOnly_write {var : Variable} {value : Option String} (mem : var ∈ vars) :
    FailsOnly (OfValue vars) (s.write var value) := by
  unfold Scene.write
  cases scope : var.scope with
  | global | u | npc => exact failsOnly_ok
  | faction => exact failsOnly_error (scope ▸ .noStore mem (.inl scope))
  | party => exact failsOnly_error (scope ▸ .noStore mem (.inr scope))

theorem Variable.failsOnly_decode {var : Variable} (mem : var ∈ vars) (expected : Expected)
    (text : String) : FailsOnly (OfValue vars) (var.decode expected text) := by
  unfold Variable.decode
  split
  · exact failsOnly_ok
  · exact failsOnly_error (.text mem text expected)

/-- Reading an integer fails for want of a store, or by the text that the variable holds. -/
theorem Scene.failsOnly_integer {var : Variable} (mem : var ∈ vars) :
    FailsOnly (OfValue vars) (s.integer var) := by
  refine (Scene.failsOnly_read mem).map.bind fun text => ?_
  cases text with
  | some text => exact Variable.failsOnly_decode mem .integer text
  | none => exact failsOnly_ok

/-- An operand fails as its variable does, whatever it is decoded to. -/
theorem Operand.failsOnly_evaluate {decode : Variable → String → Except Failure γ} {x : Operand γ}
    (h : x.vars ⊆ vars)
    (hd : ∀ var text, var ∈ vars → FailsOnly (OfValue vars) (decode var text)) :
    FailsOnly (OfValue vars) (x.evaluate decode s) := by
  cases x with
  | literal value => exact failsOnly_ok
  | stored var default =>
    have mem : var ∈ vars := h (.head _)
    refine (Scene.failsOnly_read mem).map.bind fun text => ?_
    cases text with
    | some text => exact hd var text mem
    | none => exact failsOnly_ok

theorem TextRef.failsOnly_evaluate {ref : TextRef} (h : ref.vars ⊆ vars) :
    FailsOnly (OfValue vars) (ref.evaluate s) :=
  Operand.failsOnly_evaluate h fun _ _ _ => failsOnly_ok

theorem IntRef.failsOnly_evaluate {ref : IntRef} (h : ref.vars ⊆ vars) :
    (ref.evaluate s).FailsOnly (OfValue vars) := by
  have part {x : Operand Int64} (hx : x.vars ⊆ vars) :
      FailsOnly (OfValue vars) (x.evaluate (Variable.decode .integer) s) :=
    Operand.failsOnly_evaluate hx fun var text mem => var.failsOnly_decode mem .integer text
  cases ref with
  | single x => exact Draw.failsOnly_ofExcept (part h)
  | range lo hi =>
    obtain ⟨hlo, hhi⟩ := List.append_subset.1 h
    refine (Draw.failsOnly_ofExcept (part hlo)).bind fun a => ?_
    exact (Draw.failsOnly_ofExcept (part hhi)).bind fun b => Draw.failsOnly_between

theorem DurationRef.failsOnly_evaluate {ref : DurationRef} (h : ref.vars ⊆ vars) :
    (ref.evaluate s).FailsOnly (OfValue vars) := by
  have part {x : Operand Duration} (hx : x.vars ⊆ vars) :
      FailsOnly (OfValue vars) (x.evaluate Duration.decode s) :=
    Operand.failsOnly_evaluate hx fun var text mem => (var.failsOnly_decode mem .duration text).map
  cases ref with
  | single x => exact Draw.failsOnly_ofExcept (part h)
  | range lo hi =>
    obtain ⟨hlo, hhi⟩ := List.append_subset.1 h
    refine (Draw.failsOnly_ofExcept (part hlo)).bind fun a => ?_
    refine (Draw.failsOnly_ofExcept (part hhi)).bind fun b => ?_
    exact Draw.failsOnly_between.bind fun _ => Draw.failsOnly_pure

/-- An operator fails only by a divisor of zero. -/
theorem BinaryOp.failsOnly_apply (op : BinaryOp) (a b : Int64) :
    FailsOnly (OfValue vars) (op.apply a b) := by
  cases op with
  | sub => exact failsOnly_ok
  | div | rem => exact .ite (failsOnly_error .division) failsOnly_ok

theorem AssignOp.failsOnly_apply (op : AssignOp) (current given : Int64) :
    FailsOnly (OfValue vars) (op.apply current given) := by
  cases op with
  | set | add | sub | mul => exact failsOnly_ok
  | div | rem => exact .ite (failsOnly_error .division) failsOnly_ok

mutual

/-- Where a formula has no value, one of its variables or a divisor is to blame. -/
theorem Formula.failsOnly_evaluate : ∀ f : Formula, f.vars ⊆ vars →
    (f.evaluate s).FailsOnly (OfValue vars)
  | .ref value, h => IntRef.failsOnly_evaluate h
  | .fold op first rest, h => by
    obtain ⟨hf, hr⟩ := List.append_subset.1 h
    unfold Formula.evaluate
    refine (first.failsOnly_evaluate hf).bind fun _ => ?_
    exact (Formula.failsOnly_evaluateAll rest hr).bind fun _ => Draw.failsOnly_pure
  | .binary op left right, h => by
    obtain ⟨hl, hr⟩ := List.append_subset.1 h
    unfold Formula.evaluate
    refine (left.failsOnly_evaluate hl).bind fun a => (right.failsOnly_evaluate hr).bind fun b => ?_
    exact Draw.failsOnly_ofExcept (op.failsOnly_apply a b)
  | .unary op arg, h => by
    unfold Formula.evaluate
    exact (arg.failsOnly_evaluate h).bind fun _ => Draw.failsOnly_pure

theorem Formula.failsOnly_evaluateAll : ∀ fs : List Formula, Formula.varsAll fs ⊆ vars →
    (Formula.evaluateAll s fs).FailsOnly (OfValue vars)
  | [], _ => Draw.failsOnly_pure
  | f :: rest, h => by
    obtain ⟨hf, hr⟩ := List.append_subset.1 h
    unfold Formula.evaluateAll
    refine (f.failsOnly_evaluate hf).bind fun _ => ?_
    exact (Formula.failsOnly_evaluateAll rest hr).bind fun _ => Draw.failsOnly_pure

end

namespace Condition

theorem failsOnly_atLeast {owned : Int32} {wanted : IntRef} (h : wanted.vars ⊆ vars) :
    (atLeast s owned wanted).FailsOnly (OfValue vars) :=
  (IntRef.failsOnly_evaluate h).bind fun _ => Draw.failsOnly_pure

mutual

/-- Where a condition has no value, one of its variables or a divisor is to blame. -/
theorem failsOnly_evaluate (c : Condition) (h : c.vars ⊆ vars) :
    (c.evaluate s item).FailsOnly (OfValue vars) := by
  cases c with
  | and all => exact failsOnly_evaluateAll all h
  | or any => exact failsOnly_evaluateAny any h
  | not inner => exact (failsOnly_evaluate inner h).bind fun _ => Draw.failsOnly_pure
  | hasItem | hasItemCategory | skillAtLeast | statAtLeast | factionTrustAtLeast | moraleAtLeast =>
    exact failsOnly_atLeast h
  | opinion | hasCash | withinDistance =>
    exact (IntRef.failsOnly_evaluate h).bind fun _ => Draw.failsOnly_pure
  | hasVar var value =>
    have read := s.failsOnly_read (h (.head _))
    exact (Draw.failsOnly_ofExcept read).bind fun _ => Draw.failsOnly_pure
  | compareInt lhs op rhs =>
    obtain ⟨hl, hr⟩ := List.append_subset.1 h
    refine (IntRef.failsOnly_evaluate hl).bind fun _ => ?_
    exact (IntRef.failsOnly_evaluate hr).bind fun _ => Draw.failsOnly_pure
  | compareText lhs op rhs =>
    obtain ⟨hl, hr⟩ := List.append_subset.1 h
    refine (Draw.failsOnly_ofExcept (TextRef.failsOnly_evaluate hl)).bind fun _ => ?_
    refine (Draw.failsOnly_ofExcept (TextRef.failsOnly_evaluate hr)).bind fun _ => ?_
    exact Draw.failsOnly_pure
  | compareDuration lhs op rhs =>
    obtain ⟨hl, hr⟩ := List.append_subset.1 h
    refine (DurationRef.failsOnly_evaluate hl).bind fun _ => ?_
    exact (DurationRef.failsOnly_evaluate hr).bind fun _ => Draw.failsOnly_pure
  | math lhs op rhs =>
    obtain ⟨hl, hr⟩ := List.append_subset.1 h
    refine (lhs.failsOnly_evaluate hl).bind fun _ => ?_
    exact (rhs.failsOnly_evaluate hr).bind fun _ => Draw.failsOnly_pure
  | _ => exact Draw.failsOnly_pure

/-- A conjunction fails only as one of its conditions does. -/
theorem failsOnly_evaluateAll (cs : List Condition) (h : varsAll cs ⊆ vars) :
    (evaluateAll s item cs).FailsOnly (OfValue vars) := by
  cases cs with
  | nil => exact Draw.failsOnly_pure
  | cons c rest =>
    obtain ⟨hc, hr⟩ := List.append_subset.1 h
    refine (failsOnly_evaluate c hc).bind fun value => ?_
    cases value with
    | true => exact failsOnly_evaluateAll rest hr
    | false => exact Draw.failsOnly_pure

theorem failsOnly_evaluateAny (cs : List Condition) (h : varsAll cs ⊆ vars) :
    (evaluateAny s item cs).FailsOnly (OfValue vars) := by
  cases cs with
  | nil => exact Draw.failsOnly_pure
  | cons c rest =>
    obtain ⟨hc, hr⟩ := List.append_subset.1 h
    refine (failsOnly_evaluate c hc).bind fun value => ?_
    cases value with
    | true => exact Draw.failsOnly_pure
    | false => exact failsOnly_evaluateAny rest hr

end

end Condition

end

/-! ### Refusals -/

section

open Failure (IsRefusal)

namespace Sheet

variable (s : Sheet)

theorem refuses_mutate (category : Option String) : FailsOnly IsRefusal (s.mutate category) := by
  have pool : FailsOnly IsRefusal (s.mutations category) := by
    unfold mutations
    split
    · split
      · exact failsOnly_ok
      · exact failsOnly_error trivial
    · exact failsOnly_ok
  refine pool.bind fun traits => ?_
  split
  · exact failsOnly_ok
  · exact failsOnly_error trivial

theorem refuses_addItem (item : Item) : FailsOnly IsRefusal (s.addItem item) :=
  .ite failsOnly_ok (failsOnly_error trivial)

theorem refuses_removeItems (type : String) (count : Int32) :
    FailsOnly IsRefusal (s.removeItems type count) :=
  .ite (failsOnly_error trivial) (.ite (failsOnly_error trivial) failsOnly_ok)

theorem refuses_castSpell (spell : String) : FailsOnly IsRefusal (s.castSpell spell) :=
  .ite failsOnly_ok (failsOnly_error trivial)

theorem refuses_learnRecipe (recipe : String) : FailsOnly IsRefusal (s.learnRecipe recipe) :=
  .ite failsOnly_ok (failsOnly_error trivial)

theorem refuses_spawnMonster (monster : String) (count : Int32) :
    FailsOnly IsRefusal (s.spawnMonster monster count) :=
  .ite failsOnly_ok (failsOnly_error trivial)

end Sheet

theorem Player.refuses_finishMission (p : Player) (id : String) (success : Bool) :
    FailsOnly IsRefusal (p.finishMission id success) :=
  .ite failsOnly_ok (failsOnly_error trivial)

namespace Npc

variable (n : Npc)

theorem refuses_setStatus (id : String) (status : MissionStatus) :
    FailsOnly IsRefusal (n.setStatus id status) := by
  unfold setStatus
  split
  · exact failsOnly_ok
  · exact failsOnly_error trivial

theorem refuses_finishMission (id : String) (success : Bool) :
    FailsOnly IsRefusal (n.finishMission id success) :=
  (n.refuses_setStatus id _).bind fun _ => failsOnly_ok

theorem refuses_offerMission (id : String) : FailsOnly IsRefusal (n.offerMission id) := by
  unfold offerMission
  split
  · exact failsOnly_ok
  · exact failsOnly_error trivial

theorem refuses_addMission (id : String) : FailsOnly IsRefusal (n.addMission id) :=
  (n.refuses_offerMission id).bind fun n => n.refuses_setStatus id .assigned

theorem refuses_takeControl : FailsOnly IsRefusal n.takeControl :=
  .ite failsOnly_ok (failsOnly_error trivial)

end Npc

namespace Actor

/-- What the player or another speaker is told to and does not do, it refuses. -/
structure Refused (f : {δ : Type} → [Actor δ] → δ → Except Failure δ) : Prop where
  player : ∀ p : Player, FailsOnly IsRefusal (f p)
  npc : ∀ n : Npc, FailsOnly IsRefusal (f n)

/-- So does whoever is kept in memory. -/
theorem Refused.memory {f : {δ : Type} → [Actor δ] → δ → Except Failure δ} (h : Refused f)
    [Actor γ] [memory : InMemory γ] (a : γ) : FailsOnly IsRefusal (f a) := by
  cases memory with
  | player => exact h.player a
  | npc => exact h.npc a

theorem refused_addItem (item : Item) : Refused (addItem · item) where
  player p := (p.sheet.refuses_addItem item).map
  npc n := (n.sheet.refuses_addItem item).map

theorem refused_removeItems (type : String) (count : Int32) :
    Refused (removeItems · type count) where
  player p := (p.sheet.refuses_removeItems type count).map
  npc n := (n.sheet.refuses_removeItems type count).map

theorem refused_assignMission (id : String) : Refused (assignMission · id) where
  player _ := failsOnly_ok
  npc n := n.refuses_setStatus id .assigned

theorem refused_finishMission (id : String) (success : Bool) :
    Refused (finishMission · id success) where
  player p := p.refuses_finishMission id success
  npc n := n.refuses_finishMission id success

theorem refused_offerMission (id : String) : Refused (offerMission · id) where
  player _ := failsOnly_error trivial
  npc n := n.refuses_offerMission id

theorem refused_addMission (id : String) : Refused (addMission · id) where
  player _ := failsOnly_ok
  npc n := n.refuses_addMission id

end Actor

end

/-! ### Deeds -/

namespace Act

open Failure (OfValue OfEffect IsRefusal)

variable {vars : List Variable}

/-- A deed that only looks for a value. -/
theorem FailsOnly.ofEffect {m : Act α β γ} (h : m.FailsOnly (OfValue vars)) :
    m.FailsOnly (OfEffect vars) := h.imp fun _ => .inl

/-- A look by which something is refused. -/
theorem failsOnly_check {q : Scene α β → Except Failure γ}
    (h : ∀ s, Parley.FailsOnly IsRefusal (q s)) : (look q).FailsOnly (OfEffect vars) :=
  failsOnly_look fun s => (h s).imp fun _ => .inr

theorem failsOnly_ensureFunds {payer : Scene α β → γ} [Actor γ] {cost : Int64} :
    (look fun s => ensureFunds (payer s) cost : Act α β Unit).FailsOnly (OfEffect vars) :=
  failsOnly_check fun _ => .ite (failsOnly_error trivial) failsOnly_ok

theorem failsOnly_ensureAccepts {receiver : Scene α β → γ} [Actor γ] {item : Item} :
    (look fun s => ensureAccepts (receiver s) item : Act α β Unit).FailsOnly (OfEffect vars) :=
  failsOnly_check fun _ => .ite failsOnly_ok (failsOnly_error trivial)

section

variable [Actor α] [Actor β]

theorem failsOnly_write {var : Variable} {value : Option String} (mem : var ∈ vars) :
    (write var value : Act α β Unit).FailsOnly (OfEffect vars) :=
  (failsOnly_change fun _ => Scene.failsOnly_write mem).ofEffect

theorem failsOnly_int {ref : IntRef} (h : ref.vars ⊆ vars) :
    (int ref : Act α β Int64).FailsOnly (OfEffect vars) :=
  (failsOnly_evaluate fun _ => IntRef.failsOnly_evaluate h).ofEffect

theorem failsOnly_int32 {ref : IntRef} (h : ref.vars ⊆ vars) :
    (int32 ref : Act α β Int32).FailsOnly (OfEffect vars) :=
  (failsOnly_int h).bind fun _ => failsOnly_pure

theorem failsOnly_duration {ref : DurationRef} (h : ref.vars ⊆ vars) :
    (duration ref : Act α β Duration).FailsOnly (OfEffect vars) :=
  (failsOnly_evaluate fun _ => DurationRef.failsOnly_evaluate h).ofEffect

theorem failsOnly_text {ref : TextRef} (h : ref.vars ⊆ vars) :
    (text ref : Act α β String).FailsOnly (OfEffect vars) :=
  (failsOnly_look fun _ => TextRef.failsOnly_evaluate h).ofEffect

theorem failsOnly_stored {var : Variable} (mem : var ∈ vars) :
    (stored var : Act α β Int64).FailsOnly (OfEffect vars) :=
  (failsOnly_look fun _ => Scene.failsOnly_integer mem).ofEffect

/-- A number of items fails as its reference does, or is refused for making no sense. -/
theorem failsOnly_count {item : String} {ref : IntRef} (h : ref.vars ⊆ vars) :
    (count item ref : Act α β Int32).FailsOnly (OfEffect vars) := by
  refine (failsOnly_int h).bind fun n => failsOnly_check fun _ => ?_
  exact .ite (failsOnly_error trivial) failsOnly_ok

variable [Actor.InMemory α] [Actor.InMemory β]

theorem failsOnly_tell? {t : Target} {g : {δ : Type} → [Actor δ] → δ → Except Failure δ}
    (h : Actor.Refused g) : (tell? t g : Act α β Unit).FailsOnly (OfEffect vars) := by
  refine failsOnly_change fun s => ?_
  cases t with
  | u => exact (h.memory s.u).map.imp fun _ => .inr
  | npc => exact (h.memory s.npc).map.imp fun _ => .inr

theorem failsOnly_buy {item : Item} {cost : Int64} :
    (buy item cost : Act α β Unit).FailsOnly (OfEffect vars) := by
  refine failsOnly_ensureFunds.bind fun _ => failsOnly_ensureAccepts.bind fun _ => ?_
  refine failsOnly_tell.bind fun _ => failsOnly_tell.bind fun _ => ?_
  exact failsOnly_tell? (Actor.refused_addItem item)

theorem failsOnly_sell {type : String} {count : Int32} {cost : Int64} :
    (sell type count cost : Act α β Unit).FailsOnly (OfEffect vars) := by
  have enough (s : Scene α β) : Parley.FailsOnly IsRefusal
      (if Actor.itemCount s.u type < count then .error (.lookup .item type) else .ok ()) :=
    .ite (failsOnly_error trivial) failsOnly_ok
  refine (failsOnly_check enough).bind fun _ => ?_
  refine (failsOnly_look fun _ => failsOnly_ok).bind fun category => ?_
  refine failsOnly_ensureFunds.bind fun _ => failsOnly_ensureAccepts.bind fun _ => ?_
  refine (failsOnly_tell? (Actor.refused_removeItems type count)).bind fun _ => ?_
  refine (failsOnly_tell? (Actor.refused_addItem _)).bind fun _ => ?_
  exact failsOnly_tell.bind fun _ => failsOnly_tell

end

end Act

end Parley
