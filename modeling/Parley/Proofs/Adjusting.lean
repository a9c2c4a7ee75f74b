import Parley.Proofs.Assignment

/-!
# Adjustments

To adjust a variable by one amount after the other adds the amounts up, where the sum stops at the
ends of the 64-bit range after each of them. What is left behind is what is left by writing the sum
once: every reference to the variable reads it, and every other variable holds what it held.
-/

namespace Parley

open Act

variable {α β : Type} [Actor α] [Actor β] {var : Variable} {t : Target}

/-- The effect that adjusts a variable by an amount. -/
def Effect.adjustment (var : Variable) (t : Target) (amount : Int64) : Effect :=
  ⟨.adjustVar var (.literal amount), t⟩

/-- The deed that adjusts a variable by some amounts, one after the other. -/
def Act.adjust (var : Variable) (t : Target) (amounts : List Int64) : Act α β Unit :=
  amounts.forM fun amount => (Effect.adjustment var t amount).execute

/-- An adjustment succeeds where the variable holds an integer and can be written, and stores the
saturated sum. -/
theorem Effect.succeeds_adjustment {enc enc' : Encounter α β} {amount : Int64} :
    (adjustment var t amount).execute.Succeeds enc () enc' ↔
      ∃ current s, enc.scene.integer var = .ok current ∧
        enc.scene.write var (some (toString (add64 current amount).toInt)) = .ok s ∧
        enc' = { enc with scene := s } := by
  -- An adjustment is the assignment with a plus sign, step by step.
  have increase : (adjustment var t amount).execute.Succeeds enc () enc' ↔
      (execute ⟨.arithmetic var .add (.ref (.literal amount)), t⟩).Succeeds enc () enc' := Iff.rfl
  rw [increase, succeeds_assignment]
  constructor
  · rintro ⟨given, g, current, result, s, evaluated, read, applied, written, rfl⟩
    cases evaluated
    cases applied
    exact ⟨current, s, read, written, rfl⟩
  · rintro ⟨current, s, read, written, rfl⟩
    exact ⟨amount, enc.generator, current, _, s, rfl, read, rfl, written, rfl⟩

variable [Actor.InMemory α] [Actor.InMemory β]

/-- An integer that was written is read back. -/
theorem Scene.integer_of_write {s s' : Scene α β} {n : Int64}
    (h : s.write var (some (toString n.toInt)) = .ok s') : s'.integer var = .ok n := by
  have text := readText_of_ne_empty (read_write h) (toString_ne_empty n.toInt)
  rw [integer_of_readText text]
  exact var.decode_toString .integer n

/-- Adjusting a variable that holds an integer leaves behind what writing the sum does. -/
theorem Act.succeeds_adjust {enc : Encounter α β} {start : Int64}
    (holds : enc.scene.integer var = .ok start) (supported : var.scope.isSupported = true)
    (first : Int64) (rest : List Int64) :
    ∃ s, (adjust var t (first :: rest)).Succeeds enc () { enc with scene := s } ∧
      enc.scene.write var (some (toString ((first :: rest).foldl add64 start).toInt)) = .ok s := by
  obtain ⟨s, written⟩ := (Scene.exists_write_iff enc.scene
    (some (toString (add64 start first).toInt))).2 supported
  have adjusted : (Effect.adjustment var t first).execute.Succeeds enc () { enc with scene := s } :=
    Effect.succeeds_adjustment.2 ⟨start, s, holds, written, rfl⟩
  induction rest generalizing enc start first s with
  | nil =>
    refine ⟨s, ?_, written⟩
    exact succeeds_bind.2 ⟨(), _, adjusted, succeeds_pure.2 ⟨rfl, rfl⟩⟩
  | cons second rest ih =>
    let enc₁ : Encounter α β := { enc with scene := s }
    have between : enc₁.scene.integer var = .ok (add64 start first) :=
      Scene.integer_of_write written
    obtain ⟨s', written'⟩ := (Scene.exists_write_iff s
      (some (toString (add64 (add64 start first) second).toInt))).2 supported
    obtain ⟨last, succeeds, left⟩ := ih between second s' written'
      (Effect.succeeds_adjustment.2 ⟨_, s', between, written', rfl⟩)
    refine ⟨last, ?_, Scene.write_write written left⟩
    exact succeeds_bind.2 ⟨(), _, adjusted, succeeds⟩

/-- A variable that holds nothing is adjusted by one amount after the other. Each adjustment takes
place, and together they leave behind what writing the sum does: the variable holds the decimal form
of the sum, every reference to it reads the sum, the condition on its text holds for that form and
for no other text, and every other variable holds what it held before. -/
theorem Act.adjustments_accumulate {amounts : List Int64} (some_amount : amounts ≠ [])
    {enc : Encounter α β} (unset : enc.scene.read var = .ok none) (t : Target) :
    let sum := amounts.foldl add64 0
    ∃ s, (adjust var t amounts).Succeeds enc () { enc with scene := s } ∧
      enc.scene.write var (some (toString sum.toInt)) = .ok s ∧
      s.read var = .ok (some (toString sum.toInt)) ∧
      (∀ default, Operand.evaluate (Variable.decode .integer) s (.stored var default) = .ok sum ∧
        IntRef.evaluate s (.single (.stored var default)) = pure sum) ∧
      (∀ text item, (Condition.hasVar var text).evaluate s item =
        pure (decide (text = toString sum.toInt))) ∧
      ∀ other, other ≠ var → s.read other = enc.scene.read other := by
  intro sum
  have supported := (Scene.exists_read_iff enc.scene).1 ⟨none, unset⟩
  have zero : enc.scene.integer var = .ok 0 :=
    Scene.integer_of_readText (Scene.readText_of_read unset)
  obtain ⟨first, rest, rfl⟩ := List.exists_cons_of_ne_nil some_amount
  obtain ⟨s, succeeds, written⟩ := succeeds_adjust (t := t) zero supported first rest
  have holds : s.read var = .ok (some (toString sum.toInt)) := Scene.read_write written
  refine ⟨s, succeeds, written, holds, ?_, ?_, ?_⟩
  · intro default
    exact ⟨Scene.evaluate_operand holds default, Scene.evaluate_stored holds default⟩
  · intro text item
    have same : Option.some (toString sum.toInt) = some text ↔ text = toString sum.toInt :=
      ⟨fun h => (Option.some.inj h).symm, fun h => congrArg some h.symm⟩
    simp only [Condition.evaluate, holds, ← decide_eq_decide.2 same]
    rfl
  · intro other ne
    rw [Scene.read_of_write written, if_neg ne]

/-- A sum that stops at the greatest integer and then at the least one is kept for the other
speaker, while the variable of the same name that the player has stays as it is. -/
theorem Act.debt_accumulates :
    let amounts := [5, Int64.maxValue, Int64.minValue, Int64.minValue]
    let s : Scene Player Npc :=
      { u := .ofSheet { Sheet.new "Bob" with vars := .insert .empty "debt" "x" }
        npc := .ofSheet (.new "Ann"), globals := .empty, current := { id := "TALK" }
        earlier := [], missionsAssigned := [], byRadio := false }
    let enc : Encounter Player Npc := ⟨s, .ofSeed 0, none⟩
    enc.scene.read ⟨.npc, "debt"⟩ = .ok none ∧
      ∃ s', (adjust ⟨.npc, "debt"⟩ .u amounts).Succeeds enc () { enc with scene := s' } ∧
        s'.read ⟨.npc, "debt"⟩ = .ok (some "-9223372036854775808") ∧
        IntRef.evaluate s' (.single (.stored ⟨.npc, "debt"⟩ 0)) = pure Int64.minValue ∧
        s'.read ⟨.u, "debt"⟩ = .ok (some "x") := by
  intro amounts s enc
  have unset : enc.scene.read ⟨.npc, "debt"⟩ = .ok none := rfl
  obtain ⟨s', succeeds, -, holds, reads, -, others⟩ :=
    adjustments_accumulate (List.cons_ne_nil _ _ : amounts ≠ []) unset .u
  refine ⟨unset, s', succeeds, holds, ?_, ?_⟩
  · exact (reads 0).2
  · exact (others ⟨.u, "debt"⟩ nofun).trans rfl

end Parley
