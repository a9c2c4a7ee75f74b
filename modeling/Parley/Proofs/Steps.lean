import Parley.Proofs.Causes
import Parley.Proofs.Stirring

/-!
# The steps of effects

An effect first looks for the values of its parameters and for what stands in its way, and then it
acts. `EffectKind.Steps` has a rule for every way to act: most effects tell one actor to change its
sheet or what it keeps beside the sheet, the others write a variable, trade, move missions or hand
over. `Effect.execute_steps`, that effects are carried out by these rules, goes through the kinds of
effects one by one; what effects leave alone, what they change and why they fail is then a matter of
the rules.
-/

namespace Parley

variable {α β γ : Type}

/-- The deed only looks, and where it fails a variable of the effect or a refusal is to blame. -/
structure Act.Peeks (kind : EffectKind) (m : Act α β γ) : Prop where
  looks : m.Looks
  fails : m.FailsOnly (Failure.OfEffect kind.vars)

/-- The player and the other speakers refuse what they are told to, or they do with it what an
effect of the kind does to the sheet of its target. The missions, the temper of the other speaker
and its selection are left alone. -/
structure EffectKind.Tells (kind : EffectKind) (t : Target)
    (f : {δ : Type} → [Actor δ] → δ → Except Failure δ) : Prop where
  player : ∀ {p p' : Player}, f p = .ok p' →
    kind.Alters t p.sheet p'.sheet ∧ p'.activeMissions = p.activeMissions
  npc : ∀ {n n' : Npc}, f n = .ok n' → kind.Alters t n.sheet n'.sheet ∧ n.Still n'
  refused : Actor.Refused f

section

variable [Actor α] [Actor β]

open Act

/-- How an effect of a kind on a target is carried out. -/
inductive EffectKind.Steps : EffectKind → Target → Act α β Unit → Prop where
  | peek {kind t γ} {m : Act α β γ} {f : γ → Act α β Unit} (first : m.Peeks kind)
      (rest : ∀ a, Steps kind t (f a)) : Steps kind t (m >>= f)
  | write {kind t var value} (named : kind.written? = some var) : Steps kind t (write var value)
  | tell {kind t} {f : {δ : Type} → [Actor δ] → δ → Except Failure δ} (told : kind.Tells t f) :
      Steps kind t (tell? t f)
  | spendCash {amount t delta} :
      Steps (.spendCash amount) t (tell .u (Actor.addCash · delta))
  | buyItem {item category number cost t n price} :
      Steps (.buyItem item category number cost) t (buy (.plain item category n) price)
  | sellItem {item number cost t n price} : Steps (.sellItem item number cost) t (sell item n price)
  | assignMission {mission t} : Steps (.assignMission mission) t
      (tell? .npc (Actor.assignMission · mission) >>= fun _ =>
        tell? .u (Actor.assignMission · mission))
  | finishMission {mission success t} : Steps (.finishMission mission success) t
      (tell? .npc (Actor.finishMission · mission success) >>= fun _ =>
        tell? .u (Actor.finishMission · mission success))
  | offerMission {mission t} :
      Steps (.offerMission mission) t (tell? t (Actor.offerMission · mission))
  | addMission {mission t} : Steps (.addMission mission) t
      (tell? .npc (Actor.addMission · mission) >>= fun _ =>
        tell? .u (Actor.assignMission · mission))
  | openDialogue {topic t} : Steps (.openDialogue topic) t (handOver (.openDialogue topic))
  | takeControl {t} {f : {δ : Type} → [Actor δ] → δ → Except Failure δ}
      (told : EffectKind.takeControl.Tells t f) :
      Steps .takeControl t (tell? t f >>= fun _ => handOver .takeControl)
  | action {action t} : Steps (.action action) t (tell t (Actor.performAction · action))

end

namespace Act

variable [Actor α] [Actor β] {kind : EffectKind}

theorem peeks_int {ref : IntRef} (own : ref.vars ⊆ kind.vars) :
    (int ref : Act α β Int64).Peeks kind := ⟨looks_int, failsOnly_int own⟩

theorem peeks_int32 {ref : IntRef} (own : ref.vars ⊆ kind.vars) :
    (int32 ref : Act α β Int32).Peeks kind := ⟨looks_int32, failsOnly_int32 own⟩

theorem peeks_duration {ref : DurationRef} (own : ref.vars ⊆ kind.vars) :
    (duration ref : Act α β Duration).Peeks kind := ⟨looks_duration, failsOnly_duration own⟩

theorem peeks_text {ref : TextRef} (own : ref.vars ⊆ kind.vars) :
    (text ref : Act α β String).Peeks kind := ⟨looks_text, failsOnly_text own⟩

theorem peeks_count {item : String} {ref : IntRef} (own : ref.vars ⊆ kind.vars) :
    (count item ref : Act α β Int32).Peeks kind := ⟨looks_count, failsOnly_count own⟩

theorem peeks_stored {var : Variable} (own : var ∈ kind.vars) :
    (stored var : Act α β Int64).Peeks kind := ⟨looks_stored, failsOnly_stored own⟩

theorem peeks_formula {formula : Formula} (own : formula.vars ⊆ kind.vars) :
    (evaluate fun s => formula.evaluate s : Act α β Int64).Peeks kind :=
  ⟨looks_evaluate, (failsOnly_evaluate fun _ => formula.failsOnly_evaluate own).ofEffect⟩

omit [Actor α] [Actor β] in
theorem peeks_apply {op : AssignOp} {current given : Int64} :
    (look fun _ => op.apply current given : Act α β Int64).Peeks kind :=
  ⟨looks_look, (failsOnly_look fun _ => op.failsOnly_apply current given).ofEffect⟩

omit [Actor β] in
theorem peeks_funds {cost : Int64} :
    (look fun s => ensureFunds s.u cost : Act α β Unit).Peeks kind :=
  ⟨looks_look, failsOnly_ensureFunds⟩

omit [Actor α] [Actor β] in
/-- A look that finds something in every scene. -/
theorem peeks_ok {q : Scene α β → γ} : (look fun s => .ok (q s) : Act α β γ).Peeks kind :=
  ⟨looks_look, failsOnly_look fun _ => failsOnly_ok⟩

end Act

/-- What is never refused is a special case of what may be refused. -/
theorem Act.tell_eq [Actor α] [Actor β] {t : Target} {f : {δ : Type} → [Actor δ] → δ → δ} :
    (tell t f : Act α β Unit) = tell? t fun a => .ok (f a) := by
  cases t <;> rfl

namespace EffectKind

variable {kind : EffectKind} {t : Target}

namespace Tells

/-- What is done to the sheet alone. -/
theorem sheet {f : {δ : Type} → [Actor δ] → δ → Except Failure δ} {g : Sheet → Except Failure Sheet}
    (hu : ∀ p : Player, f p = (g p.sheet).map fun sheet => { p with sheet })
    (hn : ∀ n : Npc, f n = (g n.sheet).map fun sheet => { n with sheet })
    (alters : ∀ {s s'}, g s = .ok s' → kind.Alters t s s')
    (refuses : ∀ s, FailsOnly Failure.IsRefusal (g s)) : kind.Tells t f where
  player {p p'} told := by
    rw [hu] at told
    obtain ⟨sheet, done, rfl⟩ := map_eq_ok.1 told
    exact ⟨alters done, rfl⟩
  npc {n n'} told := by
    rw [hn] at told
    obtain ⟨sheet, done, rfl⟩ := map_eq_ok.1 told
    exact ⟨alters done, .sheet n sheet⟩
  refused := ⟨fun p => hu p ▸ (refuses p.sheet).map, fun n => hn n ▸ (refuses n.sheet).map⟩

theorem spawnMonster {monster : String} {number radius : Int32} {hostile : Bool} :
    kind.Tells t fun a => (Actor.spawnMonster a monster number hostile radius).map (·.2) := by
  refine .sheet (g := fun s => (s.spawnMonster monster number).map (·.2)) (fun p => ?_)
    (fun n => ?_) (fun h => ?_) fun s => (s.refuses_spawnMonster monster number).map
  · change ((p.sheet.spawnMonster monster number).map _).map _ = _
    cases p.sheet.spawnMonster monster number <;> rfl
  · change ((n.sheet.spawnMonster monster number).map _).map _ = _
    cases n.sheet.spawnMonster monster number <;> rfl
  · obtain ⟨_, spawned, rfl⟩ := map_eq_ok.1 h
    exact .kept (Sheet.spawnMonster_kept spawned)

theorem takeControl : kind.Tells t Actor.takeControl where
  player told := by contradiction
  npc {n n'} told := ⟨.kept (Npc.sheet_takeControl told ▸ .refl n.sheet), .takeControl told⟩
  refused := ⟨fun _ => failsOnly_error trivial, fun n => n.refuses_takeControl⟩

end Tells

namespace Steps

variable [Actor α] [Actor β] {f : {δ : Type} → [Actor δ] → δ → δ}

/-- What is never refused. -/
theorem sure
    (hu : ∀ p : Player,
      kind.Alters t p.sheet (f p).sheet ∧ (f p).activeMissions = p.activeMissions)
    (hn : ∀ n : Npc, kind.Alters t n.sheet (f n).sheet ∧ n.Still (f n)) :
    kind.Steps t (Act.tell t f : Act α β Unit) := by
  have told : kind.Tells t fun {δ} [Actor δ] (a : δ) => Except.ok (f a) := by
    refine ⟨fun {p p'} h => ?_, fun {n n'} h => ?_, fun _ => failsOnly_ok, fun _ => failsOnly_ok⟩
    · exact Except.ok.inj h ▸ hu p
    · exact Except.ok.inj h ▸ hn n
  rw [Act.tell_eq]
  exact .tell told

/-- What leaves the belongings, the money, the body and the variables alone. -/
theorem kept
    (hu : ∀ p : Player, p.sheet.Kept (f p).sheet ∧ (f p).activeMissions = p.activeMissions)
    (hn : ∀ n : Npc, n.sheet.Kept (f n).sheet ∧ n.Still (f n)) :
    kind.Steps t (Act.tell t f : Act α β Unit) :=
  sure (fun p => ⟨.kept (hu p).1, (hu p).2⟩) fun n => ⟨.kept (hn n).1, (hn n).2⟩

end Steps

end EffectKind

namespace Effect

variable [Actor α] [Actor β]

open Act EffectKind

/-- Every effect is carried out by the rules of its kind. -/
theorem execute_steps (e : Effect) : e.kind.Steps e.target (e.execute : Act α β Unit) := by
  obtain ⟨kind, target⟩ := e
  have own : kind.vars ⊆ kind.vars := .refl _
  cases kind with
  | addVar | removeVar => exact .write rfl
  | adjustVar =>
    obtain ⟨mem, value⟩ := List.cons_subset.1 own
    exact .peek (peeks_int value) fun _ => .peek (peeks_stored mem) fun _ => .write rfl
  | setTextVar => exact .peek (peeks_text (List.cons_subset.1 own).2) fun _ => .write rfl
  | arithmetic =>
    obtain ⟨mem, value⟩ := List.cons_subset.1 own
    refine .peek (peeks_formula value) fun _ => .peek (peeks_stored mem) fun _ => ?_
    exact .peek peeks_apply fun _ => .write rfl
  | addEffect id length intensity =>
    obtain ⟨hl, hi⟩ := List.append_subset.1 own
    refine .peek (peeks_int32 hi) fun _ => ?_
    cases length with
    | some length =>
      refine .peek (peeks_duration hl) fun _ => .sure (fun _ => ?_) fun _ => ?_
      · exact ⟨.addEffect, rfl⟩
      · exact ⟨.addEffect, .sheet _ _⟩
    | none =>
      refine .sure (fun _ => ?_) fun _ => ?_
      · exact ⟨.addEffect, rfl⟩
      · exact ⟨.addEffect, .sheet _ _⟩
  | removeEffect =>
    exact .sure (fun _ => ⟨.removeEffect, rfl⟩) fun _ => ⟨.removeEffect, .sheet _ _⟩
  | removeItemWith =>
    refine .sure (fun p => ?_) fun n => ?_
    · exact ⟨p.sheet.removeAllItems_alters _, rfl⟩
    · exact ⟨n.sheet.removeAllItems_alters _, .sheet _ _⟩
  | modFatigue =>
    refine .peek (peeks_int32 own) fun _ => .sure (fun _ => ?_) fun _ => ?_
    · exact ⟨.modFatigue, rfl⟩
    · exact ⟨.modFatigue, .sheet _ _⟩
  | addWet =>
    refine .peek (peeks_int32 own) fun _ => .sure (fun _ => ?_) fun _ => ?_
    · exact ⟨.addWet, rfl⟩
    · exact ⟨.addWet, .sheet _ _⟩
  -- What the sheet may refuse.
  | spawnItem item category =>
    refine .peek (peeks_count own) fun number => .tell ?_
    exact .sheet (g := (·.addItem (.plain item category number))) (fun _ => rfl) (fun _ => rfl)
      (Sheet.addItem_alters rfl) fun s => s.refuses_addItem _
  | consumeItem item =>
    refine .peek (peeks_count own) fun number => .tell ?_
    exact .sheet (g := (·.removeItems item number)) (fun _ => rfl) (fun _ => rfl)
      Sheet.removeItems_alters fun s => s.refuses_removeItems item number
  | mutate category =>
    exact .tell (.sheet (g := (·.mutate category)) (fun _ => rfl) (fun _ => rfl)
      (fun h => .kept (Sheet.mutate_kept h)) fun s => s.refuses_mutate category)
  | castSpell spell =>
    refine .peek peeks_ok fun _ => .tell ?_
    exact .sheet (g := (·.castSpell spell)) (fun _ => rfl) (fun _ => rfl)
      (fun h => .kept (Sheet.castSpell_kept h)) fun s => s.refuses_castSpell spell
  | learnRecipe recipe =>
    exact .tell (.sheet (g := (·.learnRecipe recipe)) (fun _ => rfl) (fun _ => rfl)
      (fun h => .kept (Sheet.learnRecipe_kept h)) fun s => s.refuses_learnRecipe recipe)
  | teleport =>
    refine .peek peeks_ok fun place => .tell ?_
    exact .sheet (g := fun s => .ok { s with position := place }) (fun _ => rfl) (fun _ => rfl)
      (fun h => .kept (Except.ok.inj h ▸ ⟨rfl, rfl, rfl, rfl, rfl, rfl⟩)) fun _ => failsOnly_ok
  | spawnMonster => exact .peek (peeks_int32 own) fun _ => .tell .spawnMonster
  | spendCash => exact .peek (peeks_int own) fun _ => .peek peeks_funds fun _ => .spendCash
  | buyItem =>
    obtain ⟨hn, hc⟩ := List.append_subset.1 own
    exact .peek (peeks_count hn) fun _ => .peek (peeks_int hc) fun _ => .buyItem
  | sellItem =>
    obtain ⟨hn, hc⟩ := List.append_subset.1 own
    exact .peek (peeks_count hn) fun _ => .peek (peeks_int hc) fun _ => .sellItem
  | assignMission => exact .assignMission
  | finishMission => exact .finishMission
  | offerMission => exact .offerMission
  | addMission => exact .addMission
  | openDialogue => exact .openDialogue
  | takeControl => exact .takeControl .takeControl
  | action => exact .action
  -- What is always done, and is kept apart from what `EffectKind.Alters` is about.
  | addMorale =>
    obtain ⟨own, hd⟩ := List.append_subset.1 own
    obtain ⟨own, hl⟩ := List.append_subset.1 own
    obtain ⟨hb, hm⟩ := List.append_subset.1 own
    refine .peek (peeks_int32 hb) fun _ => .peek (peeks_int32 hm) fun _ => ?_
    refine .peek (peeks_duration hl) fun _ => .peek (peeks_duration hd) fun _ => ?_
    exact .kept (fun _ => ⟨⟨rfl, rfl, rfl, rfl, rfl, rfl⟩, rfl⟩)
      fun _ => ⟨⟨rfl, rfl, rfl, rfl, rfl, rfl⟩, .sheet _ _⟩
  | message =>
    exact .peek (peeks_text own) fun _ =>
      .kept (fun _ => ⟨⟨rfl, rfl, rfl, rfl, rfl, rfl⟩, rfl⟩)
        fun _ => ⟨⟨rfl, rfl, rfl, rfl, rfl, rfl⟩, .sheet _ _⟩
  | modHealthy =>
    obtain ⟨ha, hc⟩ := List.append_subset.1 own
    refine .peek (peeks_int32 ha) fun _ => .peek (peeks_int32 hc) fun _ => ?_
    exact .kept (fun _ => ⟨⟨rfl, rfl, rfl, rfl, rfl, rfl⟩, rfl⟩)
      fun _ => ⟨⟨rfl, rfl, rfl, rfl, rfl, rfl⟩, .sheet _ _⟩
  | assignActivity =>
    refine .peek (peeks_duration own) fun _ => ?_
    exact .kept (fun _ => ⟨⟨rfl, rfl, rfl, rfl, rfl, rfl⟩, rfl⟩)
      fun _ => ⟨⟨rfl, rfl, rfl, rfl, rfl, rfl⟩, .sheet _ _⟩
  | addFactionRep | addFactionTrust | addDebt | sound =>
    refine .peek (peeks_int32 own) fun _ => ?_
    exact .kept (fun _ => ⟨⟨rfl, rfl, rfl, rfl, rfl, rfl⟩, rfl⟩)
      fun _ => ⟨⟨rfl, rfl, rfl, rfl, rfl, rfl⟩, ⟨rfl, rfl, rfl, rfl⟩, rfl⟩
  | addTrait | removeTrait | addBionic | removeBionic | changeFaction | toggleRule | setRule
  | clearRule | ruleSetting | setClass | loseMorale | npcFirstTopic =>
    exact .kept (fun _ => ⟨⟨rfl, rfl, rfl, rfl, rfl, rfl⟩, rfl⟩)
      fun _ => ⟨⟨rfl, rfl, rfl, rfl, rfl, rfl⟩, ⟨rfl, rfl, rfl, rfl⟩, rfl⟩

end Effect

end Parley
