import Parley.Proofs.Assignment
import Parley.Proofs.References
import Parley.Proofs.Steady

/-!
# Ranges

A range is evaluated by one draw, from the lesser to the greater of its ends, and the ends may be
given in either order. Where one of them fails nothing is drawn, and nothing is drawn for a single
value. What is said of an integer without evaluating it is a lower bound for what it comes to while
its variables are not set.
-/

namespace Parley

namespace Draw

/-- A number between two ends, each of which may fail to be found. -/
def betweenEnds (x y : Except Failure Int64) : Draw Int64 := do
  let a ← ofExcept x
  let b ← ofExcept y
  between a b

/-- An evaluation succeeds just when both ends of a range are found. Then it makes one draw, from
the lesser to the greater end, and comes to the number that was drawn; else it makes none. -/
structure DrawsOnce (m : Draw Int64) (x y : Except Failure Int64) : Prop where
  succeeds_iff (g : Generator) :
    (∃ n g', m.ComesTo g n g') ↔ (∃ a, x = .ok a) ∧ ∃ b, y = .ok b
  drawn {g : Generator} {n : Int64} {g' : Generator} : m.ComesTo g n g' →
    ∃ a b, x = .ok a ∧ y = .ok b ∧
      g.sample (min a b) (max a b) (min64_le_max64 a b) = (n, g') ∧ min a b ≤ n ∧ n ≤ max a b
  undrawn {g : Generator} : (∀ n g', ¬m.ComesTo g n g') → (m.run.run g).2 = g

theorem ofExcept_map {γ δ : Type} (f : γ → δ) (x : Except Failure γ) :
    ofExcept (x.map f) = f <$> ofExcept x := by
  cases x <;> rfl

theorem comesTo_between {a b n : Int64} {g g' : Generator} :
    (between a b).ComesTo g n g' ↔
      g.sample (min a b) (max a b) (min64_le_max64 a b) = (n, g') := by
  change ((Except.ok (g.sample _ _ (min64_le_max64 a b)).1,
    (g.sample _ _ (min64_le_max64 a b)).2) : Except Failure Int64 × Generator) = (.ok n, g') ↔ _
  rw [Prod.mk.injEq, Except.ok.injEq, Prod.ext_iff]

theorem comesTo_betweenEnds {x y : Except Failure Int64} {n : Int64} {g g' : Generator} :
    (betweenEnds x y).ComesTo g n g' ↔
      ∃ a b, x = .ok a ∧ y = .ok b ∧
        g.sample (min a b) (max a b) (min64_le_max64 a b) = (n, g') := by
  simp only [betweenEnds, comesTo_bind, comesTo_ofExcept, comesTo_between]
  constructor
  · rintro ⟨a, _, ⟨first, rfl⟩, b, _, ⟨second, rfl⟩, sampled⟩
    exact ⟨a, b, first, second, sampled⟩
  · rintro ⟨a, b, first, second, sampled⟩
    exact ⟨a, g, ⟨first, rfl⟩, b, g, ⟨second, rfl⟩, sampled⟩

/-- Once both ends are known, there is a single draw between them. -/
theorem drawsOnce_betweenEnds (x y : Except Failure Int64) : (betweenEnds x y).DrawsOnce x y where
  succeeds_iff g := by
    simp only [comesTo_betweenEnds]
    constructor
    · rintro ⟨n, g', a, b, first, second, -⟩
      exact ⟨⟨a, first⟩, b, second⟩
    · rintro ⟨⟨a, first⟩, b, second⟩
      exact ⟨_, _, a, b, first, second, rfl⟩
  drawn {g n g'} comes := by
    obtain ⟨a, b, first, second, sampled⟩ := comesTo_betweenEnds.1 comes
    have within := g.sample_mem (min64_le_max64 a b)
    rw [sampled] at within
    exact ⟨a, b, first, second, sampled, within⟩
  undrawn {g} fails := by
    cases x with
    | error failure => rfl
    | ok a =>
      cases y with
      | error failure => rfl
      | ok b => exact absurd (comesTo_betweenEnds.2 ⟨a, b, rfl, rfl, rfl⟩) (fails _ _)

end Draw

section

variable {α β : Type} [Actor α] [Actor β] (s : Scene α β)

theorem IntRef.drawsOnce_range (lo hi : Operand Int64) :
    (IntRef.evaluate s (.range lo hi)).DrawsOnce (lo.evaluate (Variable.decode .integer) s)
      (hi.evaluate (Variable.decode .integer) s) := Draw.drawsOnce_betweenEnds ..

theorem DurationRef.turns_range (lo hi : Operand Duration) :
    (·.turns) <$> DurationRef.evaluate s (.range lo hi) =
      Draw.betweenEnds ((lo.evaluate Duration.decode s).map (·.turns))
        ((hi.evaluate Duration.decode s).map (·.turns)) := by
  simp only [evaluate, Draw.betweenEnds, Draw.ofExcept_map, map_bind, bind_map_left, map_pure,
    bind_pure]

variable {s}

/-- Where its variable is not set, an operand comes to nothing but its preview. -/
theorem Operand.eq_preview {γ : Type} {decode : Variable → String → Except Failure γ}
    {part : Operand γ} {a : γ} (unset : ∀ var ∈ part.vars, s.Unset var)
    (h : part.evaluate decode s = .ok a) : a = part.preview := by
  cases part with
  | literal value => exact (Except.ok.inj h).symm
  | stored var default =>
    have empty := unset var (List.mem_singleton_self var)
    cases read : s.read var with
    | error failure =>
      rw [evaluate, Scene.readText, read] at h
      contradiction
    | ok value =>
      rw [evaluate, empty.readText read] at h
      exact (Except.ok.inj h).symm

/-- Where its variable is not set, but could be, an operand comes to its preview. -/
theorem Operand.evaluate_of_unset {γ : Type} {decode : Variable → String → Except Failure γ}
    {part : Operand γ} (unset : ∀ var ∈ part.vars, s.Unset var)
    (supported : ∀ var ∈ part.vars, var.scope.isSupported = true) :
    part.evaluate decode s = .ok part.preview := by
  cases part with
  | literal value => rfl
  | stored var default =>
    obtain ⟨value, read⟩ := (s.exists_read_iff).2 (supported var (List.mem_singleton_self var))
    rw [evaluate, (unset var (List.mem_singleton_self var)).readText read]
    rfl

namespace IntRef

variable {ref : IntRef} {g g' : Generator} {n : Int64}

/-- Where no variable is set, what comes is at least what is shown. -/
theorem preview_le_of_comesTo (unset : ∀ var ∈ Quantity.vars ref, s.Unset var)
    (h : (ref.evaluate s).ComesTo g n g') : ref.preview ≤ n := by
  cases ref with
  | single part =>
    obtain ⟨evaluated, -⟩ := Draw.comesTo_ofExcept.1 h
    rw [Operand.eq_preview unset evaluated]
    exact Int64.le_refl _
  | range lo hi =>
    obtain ⟨unsetLo, unsetHi⟩ := List.forall_mem_append.1 unset
    obtain ⟨a, b, first, second, -, least, -⟩ := (drawsOnce_range s lo hi).drawn h
    rw [Operand.eq_preview unsetLo first, Operand.eq_preview unsetHi second] at least
    exact least

/-- Where no variable is set, a reference without a range comes to what is shown. -/
theorem eq_preview_of_isSingle (unset : ∀ var ∈ Quantity.vars ref, s.Unset var)
    (single : Quantity.isSingle ref = true) (h : (ref.evaluate s).ComesTo g n g') :
    n = ref.preview := by
  cases ref with
  | single part => exact Operand.eq_preview unset (Draw.comesTo_ofExcept.1 h).1
  | range lo hi => contradiction

/-- Where no variable is set and all have a store, a reference always comes to something. -/
theorem comesTo_of_unset (unset : ∀ var ∈ Quantity.vars ref, s.Unset var)
    (supported : ∀ var ∈ Quantity.vars ref, var.scope.isSupported = true) (g : Generator) :
    ∃ n g', (ref.evaluate s).ComesTo g n g' := by
  cases ref with
  | single part =>
    exact ⟨_, _, Draw.comesTo_ofExcept.2 ⟨Operand.evaluate_of_unset unset supported, rfl⟩⟩
  | range lo hi =>
    obtain ⟨unsetLo, unsetHi⟩ := List.forall_mem_append.1 unset
    obtain ⟨supportedLo, supportedHi⟩ := List.forall_mem_append.1 supported
    exact ((drawsOnce_range s lo hi).succeeds_iff g).2
      ⟨⟨_, Operand.evaluate_of_unset unsetLo supportedLo⟩, _,
        Operand.evaluate_of_unset unsetHi supportedHi⟩

end IntRef

variable (s)

/-- Ranges stay within their ends, whatever is stored for their variables: the evaluation of a range
of integers or durations succeeds just when both ends do, makes one draw from the lesser to the
greater of them, and comes to what was drawn, which lies between them. What is no range draws
nothing. An integer reference whose variables are not set comes to nothing less than its preview,
to nothing else if it is no range, and to something if its variables could be set. -/
theorem ranges_within_bounds :
    (∀ lo hi : Operand Int64,
      (IntRef.evaluate s (.range lo hi)).DrawsOnce (lo.evaluate (Variable.decode .integer) s)
        (hi.evaluate (Variable.decode .integer) s)) ∧
    (∀ lo hi : Operand Duration,
      ((·.turns) <$> DurationRef.evaluate s (.range lo hi)).DrawsOnce
        ((lo.evaluate Duration.decode s).map (·.turns))
        ((hi.evaluate Duration.decode s).map (·.turns))) ∧
    (∀ (part : Operand Int64) (g : Generator),
      (IntRef.evaluate s (.single part)).run.run g =
        (part.evaluate (Variable.decode .integer) s, g)) ∧
    (∀ (part : Operand Duration) (g : Generator),
      (DurationRef.evaluate s (.single part)).run.run g =
        (part.evaluate Duration.decode s, g)) ∧
    ∀ ref : IntRef, (∀ var ∈ Quantity.vars ref, s.Unset var) →
      (∀ g n g', (ref.evaluate s).ComesTo g n g' →
        ref.preview ≤ n ∧ (Quantity.isSingle ref = true → n = ref.preview)) ∧
      ((∀ var ∈ Quantity.vars ref, var.scope.isSupported = true) →
        ∀ g, ∃ n g', (ref.evaluate s).ComesTo g n g') := by
  refine ⟨IntRef.drawsOnce_range s, fun lo hi => ?_, fun _ _ => rfl, fun _ _ => rfl,
    fun ref unset => ⟨fun g n g' comes => ?_, IntRef.comesTo_of_unset unset⟩⟩
  · rw [DurationRef.turns_range]
    exact Draw.drawsOnce_betweenEnds ..
  · exact ⟨IntRef.preview_le_of_comesTo unset comes,
      fun single => IntRef.eq_preview_of_isSingle unset single comes⟩

end

/-- A range from 9 to a variable whose default is 3 comes to a number from 3 to 9 while an empty
text is stored for the variable. -/
theorem debt_from_three_to_nine :
    let bob : Sheet := { Sheet.new "Bob" with vars := Dict.empty.insert "debt" "" }
    let s : Scene Player Npc :=
      { u := .ofSheet bob, npc := .ofSheet (.new "Ann"), globals := .empty
        current := { id := "TALK" }, earlier := [], missionsAssigned := [], byRadio := false }
    let ref : IntRef := .range (.literal 9) (.stored ⟨.u, "debt"⟩ 3)
    (∀ var ∈ Quantity.vars ref, s.Unset var ∧ var.scope.isSupported = true) ∧
      ∃ n g', (ref.evaluate s).ComesTo (.ofSeed 1) n g' ∧ 3 ≤ n ∧ n ≤ 9 := by
  intro bob s ref
  have unset : ∀ var ∈ Quantity.vars ref, s.Unset var := by
    intro var mem text stored
    obtain rfl := List.mem_singleton.1 mem
    cases stored
    rfl
  have supported : ∀ var ∈ Quantity.vars ref, var.scope.isSupported = true := by
    intro var mem
    obtain rfl := List.mem_singleton.1 mem
    rfl
  obtain ⟨ranges, -, -, -, previews⟩ := ranges_within_bounds s
  obtain ⟨least, comes⟩ := previews ref unset
  obtain ⟨n, g', comes⟩ := comes supported (.ofSeed 1)
  obtain ⟨a, b, first, second, -, -, most⟩ := (ranges _ _).drawn comes
  cases first
  cases second
  exact ⟨fun var mem => ⟨unset var mem, supported var mem⟩, n, g', comes, (least _ _ _ comes).1,
    most⟩

end Parley
