import Mathlib.Logic.Function.Basic
import Parley.Proofs.Loading
import Parley.Proofs.Shown

/-!
# Chances

The modifiers of a trial add up to a sum that stops at the ends of the 32-bit range, and the chance
is the percentage nearest to the total. Wherever a sum or product stops, the order is kept: the
chance grows with what speaks for the player, and with it the draws that succeed. At difficulty 0 a
trial is certain unless something speaks against the player, and at difficulty 100 it is hopeless
unless something speaks for the player.
-/

namespace Parley

variable {α β : Type} [Actor α] [Actor β] {s s' : Scene α β} {t t' : Trial}

/-! ### Modifiers added up -/

theorem foldl_add32_mono {γ : Type} {l : List γ} {f g : γ → Int32}
    (h : ∀ x ∈ l, (f x).toInt ≤ (g x).toInt) {a b : Int32} (start : a.toInt ≤ b.toInt) :
    ((l.map f).foldl add32 a).toInt ≤ ((l.map g).foldl add32 b).toInt := by
  induction l generalizing a b with
  | nil => exact start
  | cons x rest ih =>
    obtain ⟨first, others⟩ := List.forall_mem_cons.1 h
    exact ih others (add32_mono start first)

theorem foldl_add32_zero {γ : Type} (l : List γ) :
    (l.map fun _ => (0 : Int32)).foldl add32 0 = 0 := by
  induction l with
  | nil => rfl
  | cons x rest ih => exact ih

/-- What a weighted modifier contributes to a chance, in exact arithmetic. -/
def Modifier.contribution (s : Scene α β) (modifier : Modifier × Int32) : Int :=
  (modifier.1.base s).toInt * modifier.2.toInt

namespace Trial

/-- Modifiers none of which counts against a trial do not lower its chance. -/
theorem bonus_nonneg {modifiers : List (Modifier × Int32)}
    (h : ∀ m ∈ modifiers, 0 ≤ Modifier.contribution s m) : 0 ≤ (bonus s modifiers).toInt := by
  have least := foldl_add32_mono (f := fun _ => 0) (fun m mem => mul32_nonneg (h m mem))
    (Int.le_refl (0 : Int32).toInt)
  rw [foldl_add32_zero] at least
  exact least

/-- Modifiers none of which counts for a trial do not raise its chance. -/
theorem bonus_nonpos {modifiers : List (Modifier × Int32)}
    (h : ∀ m ∈ modifiers, Modifier.contribution s m ≤ 0) : (bonus s modifiers).toInt ≤ 0 := by
  have most := foldl_add32_mono (g := fun _ => 0) (fun m mem => mul32_nonpos (h m mem))
    (Int.le_refl (0 : Int32).toInt)
  rw [foldl_add32_zero] at most
  exact most

/-! ### Trials that take luck -/

/-- The trial is decided by a draw. -/
def TakesLuck (t : Trial) : Prop := t.kind ≠ .none ∧ t.kind ≠ .condition

/-- What takes luck is a social trial or a skill check. -/
theorem TakesLuck.kind_cases (luck : t.TakesLuck) :
    (∃ social, t.kind = .social social) ∨ t.kind = .skillCheck := by
  cases hk : t.kind with
  | none => exact absurd hk luck.1
  | condition => exact absurd hk luck.2
  | social social => exact .inl ⟨social, rfl⟩
  | skillCheck => exact .inr rfl

/-- Unless the mind is controlled, a trial of luck has the percentage of its plain chance and its
modifiers. -/
theorem chance_of_luck (luck : t.TakesLuck) (g : Generator) :
    (t.chance s g).1 = if Actor.hasTrait s.u mindControl then 100
      else percent32 (add32 (t.plainChance s t.kind) (bonus s t.modifiers)) := by
  unfold chance
  rcases luck.kind_cases with ⟨social, hk⟩ | hk
  · rw [hk]
    dsimp only
    split <;> rfl
  · rw [hk]
    dsimp only
    split <;> rfl

/-- Such a trial succeeds if the number drawn is below the chance. -/
theorem success_iff (luck : t.TakesLuck) (g : Generator) :
    (t.roll s g).1.success = true ↔ g.below100.1.toInt < (t.chance s g).1.toInt := by
  obtain ⟨label, hl⟩ := label_of_luck luck.1 luck.2
  rw [roll_of_label hl]
  exact decide_eq_true_iff

/-- With the trait that controls minds the chance is 100 in every trial. -/
theorem chance_of_mindControl (control : Actor.hasTrait s.u mindControl = true) (g : Generator) :
    (t.chance s g).1 = 100 := by
  unfold chance
  cases t.kind with
  | none => rfl
  | social | skillCheck | condition => dsimp only; rw [if_pos control]; rfl

theorem success_of_chance {g : Generator} (h : (t.chance s g).1 = 100) :
    (t.roll s g).1.success = true := by
  rcases t.roll_success_cases s g with ⟨success, -⟩ | ⟨-, below⟩
  · exact success
  · rw [roll_chance, h] at below
    exact absurd below (by decide)

theorem failure_of_chance {g : Generator} (h : (t.chance s g).1 = 0) :
    (t.roll s g).1.success = false := by
  rcases t.roll_success_cases s g with ⟨-, above⟩ | ⟨failure, -⟩
  · rw [roll_chance, h] at above
    exact absurd above (by decide)
  · exact failure

/-! ### What stands before the modifiers -/

theorem toInt_remaining (h : t.Proper) : (100 - t.difficulty).toInt = 100 - t.difficulty.toInt := by
  obtain ⟨lower, upper⟩ := h
  rw [Int32.le_iff_toInt_le] at lower upper
  have zero : (0 : Int32).toInt = 0 := rfl
  have hundred : (100 : Int32).toInt = 100 := rfl
  rw [Int32.toInt_sub, hundred]
  exact Int.bmod_eq_of_le (by omega) (by omega)

theorem countedLevel_mono {level level' : Int32} (h : level.toInt ≤ level'.toInt) :
    (countedLevel level).toInt ≤ (countedLevel level').toInt := by
  rw [countedLevel, countedLevel, toInt_within32, toInt_within32]
  omega

/-- Nothing stops or wraps around in the chance of a skill check before the modifiers. -/
theorem toInt_plainChance_skillCheck (h : t.Proper) (s : Scene α β) :
    (t.plainChance s .skillCheck).toInt = 100 - 2 * t.difficulty.toInt +
      10 * (countedLevel ((t.skill.map (Actor.skillLevel s.u)).getD 0)).toInt := by
  obtain ⟨lower, upper⟩ := h
  rw [Int32.le_iff_toInt_le] at lower upper
  have counted := countedLevel_mem ((t.skill.map (Actor.skillLevel s.u)).getD 0)
  have zero : (0 : Int32).toInt = 0 := rfl
  have two : (2 : Int32).toInt = 2 := rfl
  have ten : (10 : Int32).toInt = 10 := rfl
  have hundred : (100 : Int32).toInt = 100 := rfl
  simp only [plainChance, Int32.toInt_add, Int32.toInt_sub, Int32.toInt_mul, Int.bmod_add_bmod,
    Int.sub_bmod_bmod, Int.add_bmod_bmod, two, ten, hundred]
  exact Int.bmod_eq_of_le (by omega) (by omega)

/-! ### Certain and hopeless trials -/

/-- Without difficulty, and with no lack of social skill, nothing is missing before the modifiers.
-/
theorem plainChance_of_easy (easy : t.difficulty = 0) (luck : t.TakesLuck)
    (kind : ∀ social, t.kind = .social social →
      0 ≤ Actor.socialMod s.u social ∧ 0 ≤ Actor.socialMod s.npc social) :
    100 ≤ (t.plainChance s t.kind).toInt := by
  have proper : t.Proper := by simp only [Proper, easy]; decide
  rcases luck.kind_cases with ⟨social, hk⟩ | hk
  · obtain ⟨u, npc⟩ := kind social hk
    rw [Int32.le_iff_toInt_le] at u npc
    have remaining : (100 : Int32).toInt ≤ (100 - t.difficulty).toInt := by rw [easy]; decide
    rw [hk]
    calc
      100 = (add32 (add32 100 0) 0).toInt := by decide
      _ ≤ (t.plainChance s (.social social)).toInt := add32_mono (add32_mono remaining u) npc
  · have counted := countedLevel_mem ((t.skill.map (Actor.skillLevel s.u)).getD 0)
    rw [hk, toInt_plainChance_skillCheck proper, easy, Int32.toInt_zero]
    omega

/-- Under the greatest difficulty, and with no social skill to help, nothing is left before the
modifiers. -/
theorem plainChance_of_hard (hard : t.difficulty = 100) (luck : t.TakesLuck)
    (kind : ∀ social, t.kind = .social social →
      Actor.socialMod s.u social ≤ 0 ∧ Actor.socialMod s.npc social ≤ 0) :
    (t.plainChance s t.kind).toInt ≤ 0 := by
  have proper : t.Proper := by simp only [Proper, hard]; decide
  rcases luck.kind_cases with ⟨social, hk⟩ | hk
  · obtain ⟨u, npc⟩ := kind social hk
    rw [Int32.le_iff_toInt_le] at u npc
    have remaining : (100 - t.difficulty).toInt ≤ (0 : Int32).toInt := by rw [hard]; decide
    rw [hk]
    calc
      (t.plainChance s (.social social)).toInt ≤ (add32 (add32 0 0) 0).toInt :=
        add32_mono (add32_mono remaining u) npc
      _ = 0 := by decide
  · have counted := countedLevel_mem ((t.skill.map (Actor.skillLevel s.u)).getD 0)
    rw [hk, toInt_plainChance_skillCheck proper, hard, show (100 : Int32).toInt = 100 from rfl]
    omega

/-- A trial of difficulty 0 that takes luck has a chance of 100 and succeeds with every draw, if no
modifier and none of the social skills put to the test speaks against the player. One of difficulty
100 has a chance of 0 and fails with every draw, at whatever level of the skill, if none of them
speaks for the player and the player does not control minds. A player who does succeeds in every
trial. -/
theorem certain_and_hopeless (t : Trial) (s : Scene α β) :
    (t.TakesLuck → t.difficulty = 0 →
      (∀ m ∈ t.modifiers, 0 ≤ Modifier.contribution s m) →
      (∀ social, t.kind = .social social →
        0 ≤ Actor.socialMod s.u social ∧ 0 ≤ Actor.socialMod s.npc social) →
      ∀ g, (t.chance s g).1 = 100 ∧ (t.roll s g).1.success = true) ∧
    (t.TakesLuck → t.difficulty = 100 →
      (∀ m ∈ t.modifiers, Modifier.contribution s m ≤ 0) →
      (∀ social, t.kind = .social social →
        Actor.socialMod s.u social ≤ 0 ∧ Actor.socialMod s.npc social ≤ 0) →
      Actor.hasTrait s.u mindControl = false →
      ∀ g, (t.chance s g).1 = 0 ∧ (t.roll s g).1.success = false) ∧
    (Actor.hasTrait s.u mindControl = true → ∀ g, (t.roll s g).1.success = true) := by
  refine ⟨?_, ?_, ?_⟩
  · intro luck easy modifiers kind g
    have total : 100 ≤ (add32 (t.plainChance s t.kind) (bonus s t.modifiers)).toInt := calc
      100 = (add32 100 0).toInt := by decide
      _ ≤ _ := add32_mono (plainChance_of_easy easy luck kind) (bonus_nonneg modifiers)
    have chance : (t.chance s g).1 = 100 := by
      rw [chance_of_luck luck, percent32_of_ge total, ite_self]
    exact ⟨chance, success_of_chance chance⟩
  · intro luck hard modifiers kind free g
    have total : (add32 (t.plainChance s t.kind) (bonus s t.modifiers)).toInt ≤ 0 := calc
      _ ≤ (add32 0 0).toInt :=
        add32_mono (plainChance_of_hard hard luck kind) (bonus_nonpos modifiers)
      _ = 0 := by decide
    have chance : (t.chance s g).1 = 0 := by
      rw [chance_of_luck luck, percent32_of_le total, free]
      rfl
    exact ⟨chance, failure_of_chance chance⟩
  · intro control g
    exact success_of_chance (chance_of_mindControl control g)

/-- A lie that is easy and helped by the greatest product there is always works. What is hard does
not work with the greatest level of a skill, if the modifiers add up to the least sum there is. -/
theorem lie_certain_and_check_hopeless :
    let lie : Trial := { kind := .social .lie, modifiers := [(.fear, Int32.minValue), (.flat, 1)] }
    let check : Trial :=
      { kind := .skillCheck, difficulty := 100, skill := some "speech"
        modifiers := [(.fear, Int32.maxValue), (.flat, Int32.minValue), (.trust, 5)] }
    let s : Scene Player Npc :=
      { u := .ofSheet ((Sheet.new "Bob").withSkill "speech" Int32.maxValue)
        npc := { Npc.ofSheet (.new "Ann") with opinion := ⟨0, Int32.minValue, 0, 0, 0⟩ }
        globals := .empty, current := { id := "TALK" }, earlier := [], missionsAssigned := []
        byRadio := false }
    (∀ g, (lie.chance s g).1 = 100 ∧ (lie.roll s g).1.success = true) ∧
      ∀ g, (check.chance s g).1 = 0 ∧ (check.roll s g).1.success = false := by
  intro lie check s
  constructor
  · refine (certain_and_hopeless lie s).1 ⟨nofun, nofun⟩ rfl (by decide) ?_
    rintro social ⟨⟩
    decide
  · exact (certain_and_hopeless check s).2.1 ⟨nofun, nofun⟩ rfl (by decide) nofun rfl

end Trial

/-! ### What a chance depends on -/

/-- The part of an opinion that a modifier looks at. -/
def Modifier.part? : Modifier → Option OpinionPart
  | .trust => some .trust
  | .value => some .value
  | .fear | .posFear => some .fear
  | .anger => some .anger
  | .owed => some .owed
  | .missionsAssigned | .uLie | .uPersuade | .uIntimidate | .flat => none

/-- All that a trial which takes luck looks at. -/
structure Odds where
  /-- Does the player control minds? -/
  control : Bool
  uSocial : Social → Int32
  npcSocial : Social → Int32
  level : String → Int32
  opinion : OpinionPart → Int32
  missions : Nat

/-- What a trial looks at in a scene. -/
def Scene.odds (s : Scene α β) : Odds where
  control := Actor.hasTrait s.u Trial.mindControl
  uSocial := Actor.socialMod s.u
  npcSocial := Actor.socialMod s.npc
  level := Actor.skillLevel s.u
  opinion := OpinionPart.of (Actor.opinion s.npc)
  missions := s.missionsAssigned.length

/-- To bring a skill of a player to a level changes nothing else that trials look at. -/
theorem Scene.odds_withSkill (s : Scene Player β) (id : String) (level : Int32) :
    ({ s with u := { s.u with sheet := s.u.sheet.withSkill id level } } : Scene Player β).odds =
      { s.odds with level := Function.update s.odds.level id level } := by
  have levels (id' : String) : (((s.u.sheet.withSkill id level).skills.get? id').getD 0) =
      Function.update s.odds.level id level id' := by
    rw [Function.update_apply, Sheet.withSkill, Dict.get?_insert]
    split <;> rfl
  exact congrArg (fun level => { s.odds with level }) (funext levels)

/-- The scenes differ, for a trial, at most in what speaks for the player, and that speaks no less
for the player in the second one. -/
structure Trial.NoHarder (t : Trial) (o o' : Odds) : Prop where
  control : o'.control = o.control
  uSocial : o'.uSocial = o.uSocial
  missions : o'.missions = o.missions
  npcSocial : ∀ social, t.kind = .social social → o.npcSocial social ≤ o'.npcSocial social
  level : ∀ id, t.kind = .skillCheck → t.skill = some id → o.level id ≤ o'.level id
  opinion : ∀ m ∈ t.modifiers, ∀ part, m.1.part? = some part →
    o'.opinion part = o.opinion part ∨ o.opinion part ≤ o'.opinion part ∧ 0 ≤ m.2

theorem Trial.NoHarder.refl (t : Trial) (o : Odds) : t.NoHarder o o where
  control := rfl
  uSocial := rfl
  missions := rfl
  npcSocial _ _ := Int32.le_refl _
  level _ _ _ := Int32.le_refl _
  opinion _ _ _ _ := .inl rfl

/-! ### Modifiers in two scenes -/

theorem Modifier.base_mono {m : Modifier} (uSocial : s'.odds.uSocial = s.odds.uSocial)
    (missions : s'.odds.missions = s.odds.missions)
    (opinion : ∀ part, m.part? = some part → s.odds.opinion part ≤ s'.odds.opinion part) :
    m.base s ≤ m.base s' := by
  cases m with
  | trust => exact opinion .trust rfl
  | value => exact opinion .value rfl
  | fear => exact opinion .fear rfl
  | anger => exact opinion .anger rfl
  | owed => exact opinion .owed rfl
  | posFear =>
    have more := Int32.le_iff_toInt_le.1 (opinion .fear rfl)
    change max (s.odds.opinion .fear) 0 ≤ max (s'.odds.opinion .fear) 0
    rw [Int32.le_iff_toInt_le, toInt_max32, toInt_max32]
    omega
  | missionsAssigned =>
    change clamp32 s.odds.missions ≤ clamp32 s'.odds.missions
    exact Int32.le_of_eq (by rw [missions])
  | uLie => exact Int32.le_of_eq (congrFun uSocial .lie).symm
  | uPersuade => exact Int32.le_of_eq (congrFun uSocial .persuade).symm
  | uIntimidate => exact Int32.le_of_eq (congrFun uSocial .intimidate).symm
  | flat => exact Int32.le_refl _

/-- A modifier looks at nothing but its own part of the opinion, the social skills and the missions.
-/
theorem Modifier.base_congr {m : Modifier} (uSocial : s'.odds.uSocial = s.odds.uSocial)
    (missions : s'.odds.missions = s.odds.missions)
    (opinion : ∀ part, m.part? = some part → s'.odds.opinion part = s.odds.opinion part) :
    m.base s' = m.base s := by
  apply Int32.le_antisymm
  · exact base_mono uSocial.symm missions.symm fun part h => Int32.le_of_eq (opinion part h)
  · exact base_mono uSocial missions fun part h => Int32.le_of_eq (opinion part h).symm

namespace Trial

/-- Odds that are no harder leave no smaller sum of modifiers. -/
theorem NoHarder.bonus_mono (h : t.NoHarder s.odds s'.odds) :
    (bonus s t.modifiers).toInt ≤ (bonus s' t.modifiers).toInt := by
  refine foldl_add32_mono ?_ (Int.le_refl _)
  rintro ⟨m, weight⟩ mem
  show (mul32 (m.base s) weight).toInt ≤ (mul32 (m.base s') weight).toInt
  cases hp : m.part? with
  | none =>
    have same : m.base s' = m.base s := Modifier.base_congr h.uSocial h.missions (by simp [hp])
    exact Int.le_of_eq (by rw [same])
  | some part =>
    rcases h.opinion (m, weight) mem part hp with same | ⟨more, nonneg⟩
    · have same : m.base s' = m.base s :=
        Modifier.base_congr h.uSocial h.missions (by simp [hp, same])
      exact Int.le_of_eq (by rw [same])
    · have grown : m.base s ≤ m.base s' :=
        Modifier.base_mono h.uSocial h.missions (by simp [hp, more])
      exact mul32_mono (Int32.le_iff_toInt_le.1 grown) (Int32.le_iff_toInt_le.1 nonneg)

/-- Odds that are no harder leave no smaller a chance before the modifiers. -/
theorem NoHarder.plainChance_mono (h : t.NoHarder s.odds s'.odds) (proper : t.Proper) :
    (t.plainChance s t.kind).toInt ≤ (t.plainChance s' t.kind).toInt := by
  cases hk : t.kind with
  | none | condition => exact Int.le_refl _
  | social social =>
    have uSocial : Actor.socialMod s'.u social = Actor.socialMod s.u social :=
      congrFun h.uSocial social
    have npcSocial := Int32.le_iff_toInt_le.1 (h.npcSocial social hk)
    simp only [plainChance, uSocial]
    exact add32_mono (Int.le_refl _) npcSocial
  | skillCheck =>
    rw [toInt_plainChance_skillCheck proper, toInt_plainChance_skillCheck proper]
    cases hs : t.skill with
    | none => exact Int.le_refl _
    | some id =>
      have counted : (countedLevel (Actor.skillLevel s.u id)).toInt ≤
          (countedLevel (Actor.skillLevel s'.u id)).toInt :=
        countedLevel_mono (Int32.le_iff_toInt_le.1 (h.level id hk hs))
      simp only [Option.map_some, Option.getD_some]
      omega

/-! ### Chances in two scenes -/

/-- A trial is no likelier to succeed than another one in another scene: its chance is no greater,
and the other one succeeds with every number drawn with which it does. -/
structure NoLikelier (t : Trial) (s : Scene α β) (t' : Trial) (s' : Scene α β) : Prop where
  chance : ∀ g g', (t.chance s g).1 ≤ (t'.chance s' g').1
  success : ∀ g g', g.below100.1 = g'.below100.1 →
    (t.roll s g).1.success = true → (t'.roll s' g').1.success = true

/-- Chances compare as their plain parts and their modifiers do. -/
theorem noLikelier_of_le (luck : t.TakesLuck) (kind : t'.kind = t.kind)
    (control : s'.odds.control = s.odds.control)
    (plain : (t.plainChance s t.kind).toInt ≤ (t'.plainChance s' t.kind).toInt)
    (modifiers : (bonus s t.modifiers).toInt ≤ (bonus s' t'.modifiers).toInt) :
    t.NoLikelier s t' s' := by
  have luck' : t'.TakesLuck := by rwa [TakesLuck, kind]
  have chance (g g' : Generator) : (t.chance s g).1 ≤ (t'.chance s' g').1 := by
    have control : Actor.hasTrait s'.u mindControl = Actor.hasTrait s.u mindControl := control
    rw [chance_of_luck luck, chance_of_luck luck', control, kind, Int32.le_iff_toInt_le]
    split
    · exact Int.le_refl _
    · exact percent32_mono (add32_mono plain modifiers)
  refine ⟨chance, fun g g' drawn success => ?_⟩
  rw [success_iff luck, drawn] at success
  rw [success_iff luck']
  exact Int.lt_of_lt_of_le success (Int32.le_iff_toInt_le.1 (chance g g'))

/-- Where the odds are no harder, a trial is no less likely to succeed. -/
theorem NoHarder.noLikelier (h : t.NoHarder s.odds s'.odds) (luck : t.TakesLuck)
    (proper : t.Proper) : t.NoLikelier s t s' :=
  noLikelier_of_le luck rfl h.control (h.plainChance_mono proper) h.bonus_mono

/-! ### Growing difficulties, skills and opinions -/

/-- More difficulty never leaves a greater chance. -/
theorem plainChance_antitone (proper : t.Proper) (proper' : t'.Proper) (skill : t'.skill = t.skill)
    (more : t.difficulty ≤ t'.difficulty) (s : Scene α β) (kind : TrialKind) :
    (t'.plainChance s kind).toInt ≤ (t.plainChance s kind).toInt := by
  rw [Int32.le_iff_toInt_le] at more
  cases kind with
  | none | condition => exact Int.le_refl _
  | social social =>
    have less : (100 - t'.difficulty).toInt ≤ (100 - t.difficulty).toInt := by
      rw [toInt_remaining proper, toInt_remaining proper']
      omega
    exact add32_mono (add32_mono less (Int.le_refl _)) (Int.le_refl _)
  | skillCheck =>
    rw [toInt_plainChance_skillCheck proper, toInt_plainChance_skillCheck proper', skill]
    omega

/-- A skill check that content writes says which skill is required. -/
theorem ofJson_skill (j : Json) :
    Ensures (fun t => t.kind = .skillCheck → ∃ id, t.skill = some id) (ofJson j) := by
  refine ensures_bind fun w => .ite (fun _ => ensures_error) fun _ => ?_
  refine .ite (fun _ => ensures_error) fun given => ensures_bind fun condition => ?_
  refine ensures_bind fun modifiers => ensures_ok fun kind => ?_
  exact Option.ne_none_iff_exists'.1 fun missing => given ⟨kind, missing⟩

theorem le_update {ι : Type} [DecidableEq ι] {f : ι → Int32} {i : ι} {a : Int32} (h : f i ≤ a)
    (j : ι) : f j ≤ Function.update f i a j := by
  by_cases same : j = i
  · subst same
    rwa [Function.update_self]
  · rw [Function.update_of_ne same]
    exact Int32.le_refl _

/-- The chance of a trial that was read and takes luck is a percentage. It does not grow with the
difficulty, and it does not fall with the player's level in the required skill, with the other
speaker's skill that is put to the test, or with a part of the other speaker's opinion, as long as
no modifier that looks at that part counts against the player. A draw with which the trial succeeds
at the lower chance is one with which it succeeds at the higher one. -/
theorem chance_monotone {j : Json} {t : Trial} (read : ofJson j = .ok t) (luck : t.TakesLuck)
    (s : Scene α β) :
    (∀ g, 0 ≤ (t.chance s g).1 ∧ (t.chance s g).1 ≤ 100) ∧
    (∀ harder, t.difficulty ≤ harder → harder ≤ 100 →
      { t with difficulty := harder }.NoLikelier s t s) ∧
    (t.kind = .skillCheck → ∃ id, t.skill = some id ∧ ∀ level s', s.odds.level id ≤ level →
      s'.odds = { s.odds with level := Function.update s.odds.level id level } →
      t.NoLikelier s t s') ∧
    (∀ social, t.kind = .social social → ∀ value s', s.odds.npcSocial social ≤ value →
      s'.odds = { s.odds with npcSocial := Function.update s.odds.npcSocial social value } →
      t.NoLikelier s t s') ∧
    (∀ part, (∀ m ∈ t.modifiers, m.1.part? = some part → 0 ≤ m.2) →
      ∀ value s', s.odds.opinion part ≤ value →
      s'.odds = { s.odds with opinion := Function.update s.odds.opinion part value } →
      t.NoLikelier s t s') := by
  have proper := ofJson_proper j t read
  refine ⟨?_, ?_, ?_, ?_, ?_⟩
  · intro g
    rw [Int32.le_iff_toInt_le, Int32.le_iff_toInt_le]
    exact t.chance_mem g
  · intro harder more percentage
    have proper' : { t with difficulty := harder }.Proper :=
      ⟨Int32.le_trans proper.1 more, percentage⟩
    exact noLikelier_of_le luck rfl rfl (plainChance_antitone proper proper' rfl more s t.kind)
      (Int.le_refl _)
  · intro kind
    obtain ⟨id, required⟩ := ofJson_skill j t read kind
    refine ⟨id, required, fun level s' more changed => ?_⟩
    refine NoHarder.noLikelier ?_ luck proper
    rw [changed]
    exact { NoHarder.refl t s.odds with level := fun id' _ _ => le_update more id' }
  · intro social kind value s' more changed
    refine NoHarder.noLikelier ?_ luck proper
    rw [changed]
    exact { NoHarder.refl t s.odds with npcSocial := fun social' _ => le_update more social' }
  · intro part favourable value s' more changed
    refine NoHarder.noLikelier ?_ luck proper
    rw [changed]
    refine { NoHarder.refl t s.odds with opinion := fun m mem part' looks => ?_ }
    by_cases same : part' = part
    · subst same
      exact .inr ⟨le_update more part', favourable m mem looks⟩
    · exact .inl (Function.update_of_ne same ..)

/-- Unlimited trust makes it no less likely that someone is persuaded, and practice makes it no less
likely that a hard check is passed. -/
theorem trust_and_practice_help :
    let persuading : Json := .obj [("difficulty", .int 60),
      ("mod", .arr [.arr [.str "TRUST", .int 5], .arr [.str "FEAR", .int (-10)]]),
      ("type", .str "PERSUADE")]
    let speaking : Json := .obj [("difficulty", .int 90),
      ("mod", .arr [.arr [.str "ANGER", .int (-1)], .arr [.str "FLAT", .int 15]]),
      ("skill_required", .str "speech"), ("type", .str "SKILL_CHECK")]
    let plea : Trial :=
      { kind := .social .persuade, difficulty := 60, modifiers := [(.trust, 5), (.fear, -10)] }
    let speech : Trial :=
      { kind := .skillCheck, difficulty := 90, skill := some "speech"
        modifiers := [(.anger, -1), (.flat, 15)] }
    let s : Scene Player Npc :=
      { u := .ofSheet (.new "Bob"), npc := .ofSheet (.new "Ann"), globals := .empty
        current := { id := "TALK" }, earlier := [], missionsAssigned := [], byRadio := false }
    let trusted := { s with npc.opinion.trust := Int32.maxValue }
    let practised := { s with u.sheet := s.u.sheet.withSkill "speech" 9 }
    ofJson persuading = .ok plea ∧ plea.TakesLuck ∧ plea.NoLikelier s plea trusted ∧
      ofJson speaking = .ok speech ∧ speech.TakesLuck ∧ speech.NoLikelier s speech practised := by
  intro persuading speaking plea speech s trusted practised
  have read : ofJson persuading = .ok plea := rfl
  have read' : ofJson speaking = .ok speech := rfl
  have luck : plea.TakesLuck := ⟨nofun, nofun⟩
  have luck' : speech.TakesLuck := ⟨nofun, nofun⟩
  refine ⟨read, luck, ?_, read', luck', ?_⟩
  · obtain ⟨-, -, -, -, opinion⟩ := chance_monotone read luck s
    have favourable : ∀ m ∈ plea.modifiers, m.1.part? = some .trust → 0 ≤ m.2 := by decide
    have grown : trusted.odds.opinion =
        Function.update s.odds.opinion .trust Int32.maxValue := by
      funext part
      cases part <;> rfl
    refine opinion .trust favourable Int32.maxValue trusted (by decide) ?_
    rw [← grown]
    rfl
  · obtain ⟨-, -, skill, -⟩ := chance_monotone read' luck' s
    obtain ⟨id, required, level⟩ := skill rfl
    obtain rfl : "speech" = id := Option.some.inj required
    exact level 9 practised (by decide) (s.odds_withSkill "speech" 9)

end Trial

end Parley
