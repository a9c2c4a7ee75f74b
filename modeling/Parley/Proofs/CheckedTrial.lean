import Parley.Proofs.Deed
import Parley.Proofs.Exact
import Parley.Trial.Basic

/-!
# Trials with exact arithmetic

Trials once more, with every sum, difference and product that does not stop at the ends of the
range made exact. A trial whose difficulty is a percentage goes through just as it does without
the checks.
-/

namespace Parley

/-- An evaluation that may draw random numbers and may break off. -/
abbrev Checked (γ : Type) : Type := ExceptT Breach (StateM Generator) γ

namespace Checked

variable {γ : Type}

/-- An evaluation that cannot break off. -/
def lift (m : StateM Generator γ) : Checked γ := ExceptT.lift m

/-- A computation that draws nothing. -/
def ofExcept (e : Except Breach γ) : Checked γ := ExceptT.mk (pure e)

end Checked

namespace Trial

/-- The difficulty of a trial is a percentage. -/
def Proper (t : Trial) : Prop := 0 ≤ t.difficulty ∧ t.difficulty ≤ 100

variable {α β : Type} [Actor α] [Actor β] (s : Scene α β)

/-- The chance before the modifiers, in exact arithmetic. -/
def checkedPlainChance (t : Trial) : TrialKind → Except Breach Int32
  | .none => .ok 100
  | .condition => .ok 0
  | .social social => do
    let base ← Exact.sub 100 t.difficulty
    return add32 (add32 base (Actor.socialMod s.u social)) (Actor.socialMod s.npc social)
  | .skillCheck => do
    let base ← Exact.sub 100 (← Exact.mul 2 t.difficulty)
    let level := countedLevel ((t.skill.map (Actor.skillLevel s.u)).getD 0)
    Exact.add base (← Exact.mul 10 level)

/-- The chance of success in percent, in exact arithmetic. -/
def checkedChance (t : Trial) : Checked Int32 :=
  match t.kind with
  | .none => pure 100
  | kind =>
    if Actor.hasTrait s.u mindControl then pure 100
    else match kind with
      | .condition => do
        let passed ← match t.condition with
          | some c => .lift (c.check s none)
          | none => pure false
        pure (if passed then 100 else 0)
      | kind => do
        let base ← .ofExcept (t.checkedPlainChance s kind)
        pure (percent32 (add32 base (bonus s t.modifiers)))

/-- Decide a trial, in exact arithmetic. -/
def checkedRoll (t : Trial) : Checked Roll := do
  let chance ← t.checkedChance s
  match t.kind with
  | .none | .condition => pure ⟨100 ≤ chance, chance, false⟩
  | _ => do
    let n ← .lift Generator.below100
    pure ⟨n.toInt < chance.toInt, chance, true⟩

/-- A text with the trial and its chance in front, in exact arithmetic. -/
def checkedDecorate (t : Trial) (text : String) : Checked String :=
  match t.label with
  | some label => do
    let chance ← t.checkedChance s
    pure ("[" ++ label ++ " " ++ toString chance.toInt ++ "%] " ++ text)
  | none => pure text

variable {s} {t : Trial}

theorem countedLevel_mem (level : Int32) :
    0 ≤ (countedLevel level).toInt ∧ (countedLevel level).toInt ≤ 10 := within32_mem (by decide)

/-- The plain chance of a proper trial stays within range. -/
theorem checkedPlainChance_eq (h : t.Proper) (kind : TrialKind) :
    t.checkedPlainChance s kind = .ok (t.plainChance s kind) := by
  obtain ⟨hlo, hhi⟩ := h
  rw [Int32.le_iff_toInt_le] at hlo hhi
  have h0 : (0 : Int32).toInt = 0 := rfl
  have h2 : (2 : Int32).toInt = 2 := rfl
  have h10 : (10 : Int32).toInt = 10 := rfl
  have h100 : (100 : Int32).toInt = 100 := rfl
  cases kind with
  | none | condition => rfl
  | social social =>
    unfold checkedPlainChance
    rw [Exact.sub_eq (by omega) (by omega)]
    rfl
  | skillCheck =>
    have twice : Exact.mul 2 t.difficulty = .ok (2 * t.difficulty) :=
      Exact.mul_eq (by rw [h2]; omega) (by rw [h2]; omega)
    have doubled := Exact.toInt_of_fit twice
    rw [h2] at doubled
    have rest : Exact.sub 100 (2 * t.difficulty) = .ok (100 - 2 * t.difficulty) :=
      Exact.sub_eq (by omega) (by omega)
    have remaining := Exact.toInt_of_fit rest
    unfold checkedPlainChance plainChance
    have counted := countedLevel_mem ((t.skill.map (Actor.skillLevel s.u)).getD 0)
    generalize countedLevel ((t.skill.map (Actor.skillLevel s.u)).getD 0) = level at counted ⊢
    have tenfold : Exact.mul 10 level = .ok (10 * level) :=
      Exact.mul_eq (by rw [h10]; omega) (by rw [h10]; omega)
    have gain := Exact.toInt_of_fit tenfold
    rw [h10] at gain
    simp only [twice, rest, tenfold, bind, Except.bind]
    exact Exact.add_eq (by omega) (by omega)

/-- A chance is a percentage. -/
theorem chance_mem (t : Trial) (g : Generator) :
    0 ≤ (t.chance s g).1.toInt ∧ (t.chance s g).1.toInt ≤ 100 := by
  have never : 0 ≤ (0 : Int32).toInt ∧ (0 : Int32).toInt ≤ 100 := ⟨by decide, by decide⟩
  have always : 0 ≤ (100 : Int32).toInt ∧ (100 : Int32).toInt ≤ 100 := ⟨by decide, by decide⟩
  unfold chance
  cases t.kind with
  | none => exact always
  | social | skillCheck =>
    dsimp only
    split
    · exact always
    · exact within32_mem (by decide)
  | condition =>
    dsimp only
    split
    · exact always
    · cases t.condition with
      | none => exact never
      | some c =>
        change 0 ≤ (if (c.check s none g).1 then (100 : Int32) else 0).toInt ∧
          (if (c.check s none g).1 then (100 : Int32) else 0).toInt ≤ 100
        split
        · exact always
        · exact never

/-- A trial is rolled for its chance. -/
theorem roll_chance (t : Trial) (g : Generator) :
    (t.roll s g).1.chance = (t.chance s g).1 := by
  unfold roll
  rw [draw_bind]
  cases t.kind <;> rfl

/-- The chance of a proper trial never breaks off. -/
theorem checkedChance_eq (h : t.Proper) : t.checkedChance s = .lift (t.chance s) := by
  unfold checkedChance chance
  cases hk : t.kind with
  | none => rfl
  | social social =>
    dsimp only
    rw [checkedPlainChance_eq h]
    split <;> rfl
  | skillCheck =>
    dsimp only
    rw [checkedPlainChance_eq h]
    split <;> rfl
  | condition =>
    dsimp only
    cases t.condition <;> split <;> rfl

theorem checkedRoll_eq (h : t.Proper) : t.checkedRoll s = .lift (t.roll s) := by
  unfold checkedRoll roll
  rw [checkedChance_eq h]
  cases t.kind <;> rfl

theorem checkedDecorate_eq (h : t.Proper) (text : String) :
    t.checkedDecorate s text = .lift (t.decorate s text) := by
  unfold checkedDecorate decorate
  rw [checkedChance_eq h]
  cases t.label <;> rfl

end Trial

end Parley
