import Parley.Actor.Npc
import Parley.Actor.Player
import Parley.Conversation.Session

/-!
# What conditions see of the other speaker

Before a response is decided it is noted with the other speaker what the response asks for: a
mission is selected, or training is stored. No condition and no chance looks at either, so a trial
is decided by the chance that was shown. Two scenes are compared part by part: where the references
in a formula, or the members of a list of conditions, come to the same, so does the whole.
-/

namespace Parley

/-- No question of a condition or a trial tells two actors apart. -/
structure Actor.SameLook {β : Type} [Actor β] (b b' : β) : Prop where
  isPlayer : Actor.isPlayer b' = Actor.isPlayer b
  hasTrait : ∀ id, Actor.hasTrait b' id = Actor.hasTrait b id
  hasEffect : ∀ id, Actor.hasEffect b' id = Actor.hasEffect b id
  hasBionic : ∀ id, Actor.hasBionic b' id = Actor.hasBionic b id
  skillLevel : ∀ skill, Actor.skillLevel b' skill = Actor.skillLevel b skill
  stat : ∀ stat, Actor.stat b' stat = Actor.stat b stat
  socialMod : ∀ social, Actor.socialMod b' social = Actor.socialMod b social
  inventory : Actor.inventory b' = Actor.inventory b
  cash : Actor.cash b' = Actor.cash b
  position : Actor.position b' = Actor.position b
  opinion : Actor.opinion b' = Actor.opinion b
  turnedHostile : Actor.turnedHostile b' = Actor.turnedHostile b
  isFollowing : Actor.isFollowing b' = Actor.isFollowing b
  faction : Actor.faction b' = Actor.faction b
  factionTrust : Actor.factionTrust b' = Actor.factionTrust b
  value? : ∀ name, Actor.value? b' name = Actor.value? b name
  hasMission : ∀ id, Actor.hasMission b' id = Actor.hasMission b id
  hasRule : ∀ rule, Actor.hasRule b' rule = Actor.hasRule b rule
  moraleLevel : Actor.moraleLevel b' = Actor.moraleLevel b

section

variable {α β : Type} [Actor α] [Actor β] {s : Scene α β} {npc : β} {item : Option String}

theorem Scene.ask_sameLook {γ : Type} {q : {δ : Type} → [Actor δ] → δ → γ}
    (same : q npc = q s.npc) (t : Target) : ({ s with npc } : Scene α β).ask t q = s.ask t q := by
  cases t with
  | u => rfl
  | npc => exact same

/-- A variable is read without regard to what a response has noted. -/
theorem Scene.read_sameLook (h : Actor.SameLook s.npc npc) (var : Variable) :
    ({ s with npc } : Scene α β).read var = s.read var := by
  unfold Scene.read
  cases var.scope with
  | npc => exact congrArg Except.ok (h.value? var.name)
  | _ => rfl

theorem Operand.evaluate_sameLook (h : Actor.SameLook s.npc npc) {γ : Type}
    (decode : Variable → String → Except Failure γ) (part : Operand γ) :
    part.evaluate decode { s with npc } = part.evaluate decode s := by
  cases part with
  | literal => rfl
  | stored => simp only [Operand.evaluate, Scene.readText, Scene.read_sameLook h]

theorem IntRef.evaluate_sameLook (h : Actor.SameLook s.npc npc) (ref : IntRef) :
    ref.evaluate { s with npc } = ref.evaluate s := by
  cases ref <;> simp only [IntRef.evaluate, Operand.evaluate_sameLook h]

theorem TextRef.evaluate_sameLook (h : Actor.SameLook s.npc npc) (ref : TextRef) :
    ref.evaluate { s with npc } = ref.evaluate s := Operand.evaluate_sameLook h _ ref

theorem DurationRef.evaluate_sameLook (h : Actor.SameLook s.npc npc) (ref : DurationRef) :
    ref.evaluate { s with npc } = ref.evaluate s := by
  cases ref <;> simp only [DurationRef.evaluate, Operand.evaluate_sameLook h]

mutual

/-- What a formula comes to depends on the scene only by the references in it. -/
theorem Formula.evaluate_congr {s' : Scene α β}
    (same : ∀ ref : IntRef, ref.evaluate s' = ref.evaluate s) (f : Formula) :
    f.evaluate s' = f.evaluate s := by
  cases f with
  | ref value => exact same value
  | fold op first rest =>
    simp only [Formula.evaluate, Formula.evaluate_congr same first,
      Formula.evaluateAll_congr same rest]
  | binary op left right =>
    simp only [Formula.evaluate, Formula.evaluate_congr same left,
      Formula.evaluate_congr same right]
  | unary op arg => simp only [Formula.evaluate, Formula.evaluate_congr same arg]

/-- Formulas come to the same where all their references do. -/
theorem Formula.evaluateAll_congr {s' : Scene α β}
    (same : ∀ ref : IntRef, ref.evaluate s' = ref.evaluate s) (fs : List Formula) :
    Formula.evaluateAll s' fs = Formula.evaluateAll s fs := by
  cases fs with
  | nil => rfl
  | cons f rest =>
    simp only [Formula.evaluateAll, Formula.evaluate_congr same f,
      Formula.evaluateAll_congr same rest]

end

theorem Formula.evaluate_sameLook (h : Actor.SameLook s.npc npc) (f : Formula) :
    f.evaluate { s with npc } = f.evaluate s :=
  f.evaluate_congr (IntRef.evaluate_sameLook h)

namespace Condition

/-- A conjunction comes to the same where all its members do. -/
theorem evaluateAll_congr {s' : Scene α β} {item' : Option String} {cs : List Condition}
    (same : ∀ c ∈ cs, c.evaluate s' item' = c.evaluate s item) :
    evaluateAll s' item' cs = evaluateAll s item cs := by
  induction cs with
  | nil => rfl
  | cons c rest ih =>
    obtain ⟨first, rest⟩ := List.forall_mem_cons.1 same
    simp only [evaluateAll, first, ih rest]

theorem evaluateAny_congr {s' : Scene α β} {item' : Option String} {cs : List Condition}
    (same : ∀ c ∈ cs, c.evaluate s' item' = c.evaluate s item) :
    evaluateAny s' item' cs = evaluateAny s item cs := by
  induction cs with
  | nil => rfl
  | cons c rest ih =>
    obtain ⟨first, rest⟩ := List.forall_mem_cons.1 same
    simp only [evaluateAny, first, ih rest]

theorem atLeast_sameLook (h : Actor.SameLook s.npc npc) (owned : Int32) (wanted : IntRef) :
    atLeast { s with npc } owned wanted = atLeast s owned wanted := by
  simp only [atLeast, IntRef.evaluate_sameLook h]

/-- A condition comes to the same for two speakers whom no question tells apart. -/
theorem evaluate_sameLook (h : Actor.SameLook s.npc npc) (c : Condition) :
    c.evaluate { s with npc } item = c.evaluate s item := by
  cases c with
  | and all => exact evaluateAll_congr fun c _ => evaluate_sameLook h c
  | or any => exact evaluateAny_congr fun c _ => evaluate_sameLook h c
  | not inner => simp only [evaluate, evaluate_sameLook h inner]
  | hasTrait target id => exact congrArg pure (Scene.ask_sameLook (h.hasTrait id) target)
  | hasEffect target id => exact congrArg pure (Scene.ask_sameLook (h.hasEffect id) target)
  | hasBionic target id => exact congrArg pure (Scene.ask_sameLook (h.hasBionic id) target)
  | hasMission target id => exact congrArg pure (Scene.ask_sameLook (h.hasMission id) target)
  | factionIs target faction => simp only [evaluate, Scene.ask_sameLook h.faction]
  | hasItem target type n =>
    have same : Actor.itemCount npc type = Actor.itemCount s.npc type := by
      simp only [Actor.itemCount, h.inventory]
    have asked := Scene.ask_sameLook (q := (Actor.itemCount · type)) same target
    simp only [evaluate, atLeast_sameLook h, asked]
  | hasItemCategory target category n =>
    have same : Actor.categoryCount npc category = Actor.categoryCount s.npc category := by
      simp only [Actor.categoryCount, h.inventory]
    have asked := Scene.ask_sameLook (q := (Actor.categoryCount · category)) same target
    simp only [evaluate, atLeast_sameLook h, asked]
  | skillAtLeast target skill n =>
    have asked := Scene.ask_sameLook (q := (Actor.skillLevel · skill)) (h.skillLevel skill) target
    simp only [evaluate, atLeast_sameLook h, asked]
  | statAtLeast target stat n =>
    have asked := Scene.ask_sameLook (q := (Actor.stat · stat)) (h.stat stat) target
    simp only [evaluate, atLeast_sameLook h, asked]
  | moraleAtLeast target n =>
    simp only [evaluate, atLeast_sameLook h, Scene.ask_sameLook h.moraleLevel]
  | hasCash target n =>
    simp only [evaluate, IntRef.evaluate_sameLook h, Scene.ask_sameLook h.cash]
  | factionTrustAtLeast n => simp only [evaluate, atLeast_sameLook h, h.factionTrust]
  | opinion part op n => simp only [evaluate, IntRef.evaluate_sameLook h, h.opinion]
  | withinDistance n => simp only [evaluate, IntRef.evaluate_sameLook h, h.position]
  | hasVar var value => simp only [evaluate, Scene.read_sameLook h]
  | compareInt lhs op rhs => simp only [evaluate, IntRef.evaluate_sameLook h]
  | compareText lhs op rhs => simp only [evaluate, TextRef.evaluate_sameLook h]
  | compareDuration lhs op rhs => simp only [evaluate, DurationRef.evaluate_sameLook h]
  | math lhs op rhs => simp only [evaluate, Formula.evaluate_sameLook h]
  | npcRule rule => exact congrArg pure (h.hasRule rule)
  | npcIsPlayer => exact congrArg pure h.isPlayer
  | npcFollowing => exact congrArg pure h.isFollowing
  | npcHostile => exact congrArg pure h.turnedHostile
  | const | topicItemIs | hasAssignedMission | hasManyAssignedMissions | hasReason | isByRadio
  | uIsPlayer | hasTopicItem => rfl

/-- No condition sees what a response has noted. -/
theorem check_sameLook (h : Actor.SameLook s.npc npc) (c : Condition) :
    c.check { s with npc } item = c.check s item := by
  unfold check
  rw [evaluate_sameLook h]

end Condition

theorem Modifier.base_sameLook (h : Actor.SameLook s.npc npc) (m : Modifier) :
    m.base { s with npc } = m.base s := by
  cases m <;> simp only [base, h.opinion]

namespace Trial

theorem plainChance_sameLook (h : Actor.SameLook s.npc npc) (t : Trial) (kind : TrialKind) :
    t.plainChance { s with npc } kind = t.plainChance s kind := by
  cases kind with
  | social social => simp only [plainChance, h.socialMod]
  | none | skillCheck | condition => rfl

/-- No chance depends on what a response has noted. -/
theorem chance_sameLook (h : Actor.SameLook s.npc npc) (t : Trial) :
    t.chance { s with npc } = t.chance s := by
  have plain := plainChance_sameLook h t
  have weighted : bonus { s with npc } t.modifiers = bonus s t.modifiers := by
    simp only [bonus, Modifier.base_sameLook h]
  unfold chance
  simp only [plain, weighted, Condition.check_sameLook h]

end Trial

end

/-- Selecting a mission with an actor, or storing training, cannot be seen by conditions. -/
class Actor.Discreet (β : Type) [Actor β] : Prop where
  selectMission (b : β) (id : String) : Actor.SameLook b (Actor.selectMission b id)
  storeChosenTraining (b : β) (training : Training) :
    Actor.SameLook b (Actor.storeChosenTraining b training)

instance : Actor.Discreet Npc where
  selectMission _ _ := by constructor <;> intros <;> rfl
  storeChosenTraining _ _ := by constructor <;> intros <;> rfl

instance : Actor.Discreet Player where
  selectMission _ _ := by constructor <;> intros <;> rfl
  storeChosenTraining _ _ := by constructor <;> intros <;> rfl

/-- What a response asks for does not change the chance of its trial. -/
theorem Session.chance_note {α β : Type} [Actor α] [Actor β] [Actor.Discreet β] (r : Response)
    (s : Scene α β) (t : Trial) : t.chance (note r s) = t.chance s := by
  -- Training is stored last; what it is stored with may have a mission selected already.
  have training (npc : β) : t.chance { s with npc :=
      if r.training.isEmpty then npc else Actor.storeChosenTraining npc r.training } =
      t.chance { s with npc } := by
    split
    · rfl
    · have look : Actor.SameLook ({ s with npc } : Scene α β).npc
          (Actor.storeChosenTraining npc r.training) := Actor.Discreet.storeChosenTraining npc _
      exact t.chance_sameLook look
  refine (training _).trans ?_
  cases r.mission with
  | none => rfl
  | some mission => exact t.chance_sameLook (Actor.Discreet.selectMission s.npc mission)

end Parley
