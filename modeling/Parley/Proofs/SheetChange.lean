import Mathlib.Logic.Relation
import Parley.Proofs.Deed
import Parley.Proofs.Missions

/-!
# Changes of sheets

The actors that are kept in memory are the player and the other speakers, and each has a sheet.
Few effects change what a sheet says about belongings, money, the body and variables.
`EffectKind.Alters` has a rule for each change that an effect can make there; what all rules of a
kind preserve is preserved by every effect of the kind.
-/

namespace Parley

/-! ### Actors kept in memory -/

/-- The actors that are kept in memory: the player and the other speakers. -/
class inductive Actor.InMemory : (α : Type) → [Actor α] → Type where
  | player : InMemory Player
  | npc : InMemory Npc

instance : Actor.InMemory Player := .player

instance : Actor.InMemory Npc := .npc

/-- The sheet of an actor kept in memory. -/
def Actor.sheet {α : Type} [actor : Actor α] [memory : Actor.InMemory α] (a : α) : Sheet :=
  match α, actor, memory, a with
  | _, _, .player, p => p.sheet
  | _, _, .npc, n => n.sheet

namespace Actor

variable {α : Type} [Actor α] [memory : Actor.InMemory α]

theorem inventory_eq (a : α) : inventory a = (sheet a).inventory := by
  cases memory <;> rfl

theorem canAccept_eq (a : α) (item : Item) : canAccept a item = decide (0 < item.count) := by
  cases memory <;> rfl

/-- A relation between sheets before and after that holds for the player and for the other
speakers. -/
theorem sheet_told? {R : Sheet → Sheet → Prop}
    {f : {δ : Type} → [Actor δ] → δ → Except Failure δ}
    (hu : ∀ {p p' : Player}, f p = .ok p' → R p.sheet p'.sheet)
    (hn : ∀ {n n' : Npc}, f n = .ok n' → R n.sheet n'.sheet) {a a' : α} (told : f a = .ok a') :
    R (sheet a) (sheet a') := by
  cases memory with
  | player => exact hu told
  | npc => exact hn told

/-- What is done to the sheet alone. -/
theorem sheet_written? {R : Sheet → Sheet → Prop}
    {f : {δ : Type} → [Actor δ] → δ → Except Failure δ} {g : Sheet → Except Failure Sheet}
    (hu : ∀ p : Player, f p = (g p.sheet).map fun sheet => { p with sheet })
    (hn : ∀ n : Npc, f n = (g n.sheet).map fun sheet => { n with sheet })
    (hg : ∀ {s s'}, g s = .ok s' → R s s') {a a' : α} (told : f a = .ok a') :
    R (sheet a) (sheet a') := by
  refine sheet_told? (fun {p p'} h => ?_) (fun {n n'} h => ?_) told
  · rw [hu] at h
    obtain ⟨sheet, hs, rfl⟩ := map_eq_ok.1 h
    exact hg hs
  · rw [hn] at h
    obtain ⟨sheet, hs, rfl⟩ := map_eq_ok.1 h
    exact hg hs

theorem sheet_told {R : Sheet → Sheet → Prop} {f : {δ : Type} → [Actor δ] → δ → δ}
    (hu : ∀ p : Player, R p.sheet (f p).sheet) (hn : ∀ n : Npc, R n.sheet (f n).sheet) (a : α) :
    R (sheet a) (sheet (f a)) := by
  cases memory with
  | player => exact hu a
  | npc => exact hn a

theorem addItem_of_pos (a : α) {item : Item} (h : 0 < item.count) :
    ∃ a', addItem a item = .ok a' := by
  have added (s : Sheet) : s.addItem item = .ok (s.withItem item) := if_pos h
  cases memory with
  | player => exact ⟨_, map_eq_ok.2 ⟨_, added a.sheet, rfl⟩⟩
  | npc => exact ⟨_, map_eq_ok.2 ⟨_, added a.sheet, rfl⟩⟩

end Actor

/-- One side of a scene, with an actor that is kept in memory. -/
class inductive Scene.Side (α β : Type) [Actor α] [Actor β] : Target → Type where
  | u [Actor.InMemory α] : Side α β .u
  | npc [Actor.InMemory β] : Side α β .npc

instance {α β : Type} [Actor α] [Actor β] [Actor.InMemory α] : Scene.Side α β .u := .u

instance {α β : Type} [Actor α] [Actor β] [Actor.InMemory β] : Scene.Side α β .npc := .npc

/-- The sheet at one side of a scene. -/
def Scene.sheet {α β : Type} [Actor α] [Actor β] (s : Scene α β) (t : Target)
    [side : Scene.Side α β t] : Sheet :=
  match t, side with
  | _, @Side.u _ _ _ _ _ => Actor.sheet s.u
  | _, @Side.npc _ _ _ _ _ => Actor.sheet s.npc

/-! ### Changes of a sheet -/

/-- The belongings, the money, the body and the variables are left alone. -/
structure Sheet.Kept (s s' : Sheet) : Prop where
  effects : s'.effects = s.effects
  inventory : s'.inventory = s.inventory
  cash : s'.cash = s.cash
  vars : s'.vars = s.vars
  fatigue : s'.fatigue = s.fatigue
  wetness : s'.wetness = s.wetness

theorem Sheet.Kept.refl (s : Sheet) : s.Kept s := ⟨rfl, rfl, rfl, rfl, rfl, rfl⟩

/-- The store that belongs to an actor. -/
def Target.scope : Target → Scope
  | .u => .u
  | .npc => .npc

namespace EffectKind

/-- The variable that an effect writes or removes, if it does so. -/
def written? : EffectKind → Option Variable
  | .addVar var _ | .removeVar var | .adjustVar var _ | .setTextVar var _ | .arithmetic var _ _ =>
    some var
  | _ => none

/-- Does an effect move money? -/
def movesMoney : EffectKind → Bool
  | .buyItem .. | .sellItem .. | .spendCash _ => true
  | _ => false

/-- Can an effect give items to an actor? -/
def gives : EffectKind → Target → Bool
  | .spawnItem .., _ | .buyItem .., .u | .sellItem .., .npc => true
  | _, _ => false

/-- A change that an effect of a kind can make on the sheet of an actor. -/
inductive Alters : EffectKind → Target → Sheet → Sheet → Prop where
  | kept {kind t s s'} (same : s.Kept s') : Alters kind t s s'
  | write {kind t s vars var} (named : kind.written? = some var) (own : var.scope = t.scope)
      (others : ∀ name, name ≠ var.name → vars.get? name = s.vars.get? name) :
      Alters kind t s { s with vars }
  | addEffect {id length intensity t s level} : Alters (.addEffect id length intensity) t s
      { s with effects := s.effects.insert id (max level 1) }
  | removeEffect {id t s} : Alters (.removeEffect id) t s { s with effects := s.effects.erase id }
  | addItem {kind t s type category count} (gives : kind.gives t = true) (something : 0 < count) :
      Alters kind t s (s.withItem (.plain type category count))
  | removeItems {kind t s type n} : Alters kind t s
      { s with inventory := Item.remove type n s.inventory }
  | pay {kind t s delta} (moves : kind.movesMoney = true) : Alters kind t s
      { s with cash := add64 s.cash delta }
  | modFatigue {amount t s n} : Alters (.modFatigue amount) t s
      { s with fatigue := max (add32 s.fatigue n) 0 }
  | addWet {amount t s n} : Alters (.addWet amount) t s
      { s with wetness := percent32 (add32 s.wetness n) }

/-- What every change preserves is preserved by changes. -/
theorem Alters.preserves {kind : EffectKind} {t : Target} {P : Sheet → Prop} {s s' : Sheet}
    (step : ∀ {s s'}, kind.Alters t s s' → P s → P s')
    (changes : Relation.ReflTransGen (kind.Alters t) s s') (start : P s) : P s' := by
  induction changes with
  | refl => exact start
  | tail _ change ih => exact step change ih

end EffectKind

/-! ### Operations on a sheet -/

namespace Sheet

variable {s s' : Sheet} {kind : EffectKind} {t : Target}

/-- A mutation concerns traits only. -/
theorem mutate_kept {category : Option String} (h : s.mutate category = .ok s') : s.Kept s' := by
  obtain ⟨traits, t, -, -, rfl⟩ := mutate_eq_ok.1 h
  exact ⟨rfl, rfl, rfl, rfl, rfl, rfl⟩

theorem castSpell_kept {spell : String} (h : s.castSpell spell = .ok s') : s.Kept s' := by
  rw [castSpell] at h
  split at h
  · obtain rfl := Except.ok.inj h
    exact ⟨rfl, rfl, rfl, rfl, rfl, rfl⟩
  · contradiction

theorem learnRecipe_kept {recipe : String} (h : s.learnRecipe recipe = .ok s') : s.Kept s' := by
  rw [learnRecipe] at h
  split at h
  · obtain rfl := Except.ok.inj h
    exact ⟨rfl, rfl, rfl, rfl, rfl, rfl⟩
  · contradiction

/-- Calling up monsters leaves belongings, money and body alone. -/
theorem spawnMonster_kept {monster : String} {count n : Int32}
    (h : s.spawnMonster monster count = .ok (n, s')) : s.Kept s' := by
  rw [spawnMonster] at h
  split at h
  · obtain ⟨-, rfl⟩ := Prod.mk.inj (Except.ok.inj h)
    exact ⟨rfl, rfl, rfl, rfl, rfl, rfl⟩
  · contradiction

/-- A sheet takes every item in a positive number. -/
theorem addItem_eq_ok {item : Item} :
    s.addItem item = .ok s' ↔ 0 < item.count ∧ s' = s.withItem item := by
  rw [addItem]
  split <;> simp [*, eq_comm]

/-- A sheet gives away what it counts, and is left with the rest. -/
theorem removeItems_eq_ok {type : String} {count : Int32} :
    s.removeItems type count = .ok s' ↔ 0 < count ∧ ¬Item.countType type s.inventory < count ∧
      s' = { s with inventory := Item.remove type count.toInt.toNat s.inventory } := by
  rw [removeItems]
  split
  · rename_i none
    simp [Int32.not_lt.2 none]
  · rename_i some
    split
    · simp [*]
    · simp [*, Int32.not_le.1 some, eq_comm]

/-- What is gained is gained by effects that give it. -/
theorem addItem_alters {type category : String} {count : Int32} (gives : kind.gives t = true)
    (h : s.addItem (.plain type category count) = .ok s') : kind.Alters t s s' := by
  obtain ⟨something, rfl⟩ := addItem_eq_ok.1 h
  exact .addItem gives something

/-- Any effect may take items away. -/
theorem removeItems_alters {type : String} {count : Int32}
    (h : s.removeItems type count = .ok s') : kind.Alters t s s' := by
  obtain ⟨-, -, rfl⟩ := removeItems_eq_ok.1 h
  exact .removeItems

theorem removeAllItems_alters (s : Sheet) (type : String) :
    kind.Alters t s (s.removeAllItems type).2 := by
  rw [removeAllItems]
  split
  · split
    · rename_i removed
      exact removeItems_alters removed
    · exact .kept (.refl s)
  · exact .kept (.refl s)

end Sheet

/-! ### Deeds -/

namespace Act

variable {α β γ δ : Type} [Actor α] [Actor β] {t : Target} [side : Scene.Side α β t]
  {kind : EffectKind} {m : Act α β γ} {f : γ → Act α β δ}

/-- However the deed turns out, it makes on the sheet of an actor only changes that an effect of
the kind can make. -/
def Alters (kind : EffectKind) (t : Target) [Scene.Side α β t] (m : Act α β γ) : Prop :=
  ∀ e : Encounter α β,
    Relation.ReflTransGen (kind.Alters t) (e.scene.sheet t) ((m.perform e).2.scene.sheet t)

theorem Looks.alters (hm : m.Looks) : m.Alters kind t := by
  intro e
  rw [hm e]

theorem Alters.bind (hm : m.Alters kind t) (hf : ∀ a, (f a).Alters kind t) :
    (m >>= f).Alters kind t :=
  perform_bind_of (·.scene.sheet t) hm hf id .trans

/-- A change of the scene alters a sheet as its successes do. -/
theorem alters_change {q : Scene α β → Except Failure (Scene α β)}
    (hq : ∀ {s s'}, q s = .ok s' →
      Relation.ReflTransGen (kind.Alters t) (s.sheet t) (s'.sheet t)) :
    (change q).Alters kind t :=
  perform_change_of (·.sheet t) (fun _ => .refl) hq

theorem alters_handOver {h : Handoff} : (handOver h : Act α β Unit).Alters kind t :=
  fun _ => .refl

/-- What actors kept in memory do when they are told to, if they may refuse. -/
theorem alters_told? {t' : Target} {f : {δ : Type} → [Actor δ] → δ → Except Failure δ}
    (hf : ∀ {γ : Type} [Actor γ] [Actor.InMemory γ] {a a' : γ}, f a = .ok a' →
      kind.Alters t' (Actor.sheet a) (Actor.sheet a')) :
    (tell? t' f : Act α β Unit).Alters kind t := by
  refine alters_change fun {s s'} h => ?_
  cases t' with
  | u =>
    obtain ⟨u, hu, rfl⟩ := Scene.tell?_u_eq_ok.1 h
    cases side with
    | npc => exact .refl
    | u => exact .single (hf hu)
  | npc =>
    obtain ⟨npc, hn, rfl⟩ := Scene.tell?_npc_eq_ok.1 h
    cases side with
    | u => exact .refl
    | npc => exact .single (hf hn)

theorem alters_tell? {t' : Target} {f : {δ : Type} → [Actor δ] → δ → Except Failure δ}
    (hu : ∀ {p p' : Player}, f p = .ok p' → kind.Alters t' p.sheet p'.sheet)
    (hn : ∀ {n n' : Npc}, f n = .ok n' → kind.Alters t' n.sheet n'.sheet) :
    (tell? t' f : Act α β Unit).Alters kind t := alters_told? (Actor.sheet_told? hu hn)

theorem alters_tell {t' : Target} {f : {δ : Type} → [Actor δ] → δ → δ}
    (hu : ∀ p : Player, kind.Alters t' p.sheet (f p).sheet)
    (hn : ∀ n : Npc, kind.Alters t' n.sheet (f n).sheet) :
    (tell t' f : Act α β Unit).Alters kind t := by
  intro e
  cases t' with
  | u =>
    cases side with
    | npc => exact .refl
    | u => exact .single (Actor.sheet_told hu hn e.scene.u)
  | npc =>
    cases side with
    | u => exact .refl
    | npc => exact .single (Actor.sheet_told hu hn e.scene.npc)

/-- What is done to the sheet alone, where it may be refused. -/
theorem alters_sheet? {t' : Target} {f : {δ : Type} → [Actor δ] → δ → Except Failure δ}
    {g : Sheet → Except Failure Sheet}
    (hu : ∀ p : Player, f p = (g p.sheet).map fun sheet => { p with sheet })
    (hn : ∀ n : Npc, f n = (g n.sheet).map fun sheet => { n with sheet })
    (hg : ∀ {s s'}, g s = .ok s' → kind.Alters t' s s') :
    (tell? t' f : Act α β Unit).Alters kind t := alters_told? (Actor.sheet_written? hu hn hg)

/-- What is done to something else than the sheet. -/
theorem alters_aside? {t' : Target} {f : {δ : Type} → [Actor δ] → δ → Except Failure δ}
    (hu : ∀ {p p' : Player}, f p = .ok p' → p'.sheet = p.sheet)
    (hn : ∀ {n n' : Npc}, f n = .ok n' → n'.sheet = n.sheet) :
    (tell? t' f : Act α β Unit).Alters kind t := by
  refine alters_tell? (fun {p p'} h => ?_) fun {n n'} h => ?_
  · rw [hu h]
    exact .kept (.refl p.sheet)
  · rw [hn h]
    exact .kept (.refl n.sheet)

theorem alters_kept {t' : Target} {f : {δ : Type} → [Actor δ] → δ → δ}
    (hu : ∀ p : Player, p.sheet.Kept (f p).sheet) (hn : ∀ n : Npc, n.sheet.Kept (f n).sheet) :
    (tell t' f : Act α β Unit).Alters kind t :=
  alters_tell (fun p => .kept (hu p)) fun n => .kept (hn n)

theorem alters_addItem {t' : Target} {type category : String} {count : Int32}
    (gives : kind.gives t' = true) :
    (tell? t' (Actor.addItem · (.plain type category count)) : Act α β Unit).Alters kind t :=
  alters_sheet? (g := (·.addItem (.plain type category count))) (fun _ => rfl) (fun _ => rfl)
    (Sheet.addItem_alters gives)

theorem alters_removeItems {t' : Target} {type : String} {count : Int32} :
    (tell? t' (Actor.removeItems · type count) : Act α β Unit).Alters kind t :=
  alters_sheet? (g := (·.removeItems type count)) (fun _ => rfl) (fun _ => rfl)
    Sheet.removeItems_alters

theorem alters_addCash {t' : Target} {delta : Int64} (moves : kind.movesMoney = true) :
    (tell t' (Actor.addCash · delta) : Act α β Unit).Alters kind t :=
  alters_tell (fun _ => .pay moves) fun _ => .pay moves

/-- To write a variable of an actor is to tell the actor. -/
theorem write_of_scope {var : Variable} {value : Option String} {t' : Target}
    (own : var.scope = t'.scope) :
    (write var value : Act α β Unit) = tell t' (Actor.write · var.name value) := by
  unfold write tell Scene.write
  cases t' <;> rw [own] <;> rfl

/-- Writing the variable of an effect is what its kind allows. -/
theorem alters_write {var : Variable} {value : Option String}
    (named : kind.written? = some var) : (write var value : Act α β Unit).Alters kind t := by
  have stores (t' : Target) (own : var.scope = t'.scope) :
      (write var value : Act α β Unit).Alters kind t := by
    rw [write_of_scope own]
    refine alters_tell (fun p => ?_) fun n => ?_
    · cases value <;> exact .write named own fun name other => by simp [other]
    · cases value <;> exact .write named own fun name other => by simp [other]
  cases scope : var.scope with
  | u => exact stores .u scope
  | npc => exact stores .npc scope
  | global =>
    refine alters_change fun {s s'} h => ?_
    unfold Scene.write at h
    rw [scope] at h
    obtain rfl := Except.ok.inj h
    cases side <;> exact .refl
  | faction | party =>
    refine alters_change fun {s s'} h => ?_
    unfold Scene.write at h
    rw [scope] at h
    contradiction

end Act

/-! ### Missions and control -/

theorem Player.sheet_assignMission {p p' : Player} {id : String}
    (h : Actor.assignMission p id = .ok p') : p'.sheet = p.sheet := by
  obtain rfl := Except.ok.inj h
  rfl

theorem Player.sheet_finishMission {p p' : Player} {id : String} {success : Bool}
    (h : p.finishMission id success = .ok p') : p'.sheet = p.sheet := by
  obtain ⟨-, rfl⟩ := Player.finishMission_eq_ok.1 h
  rfl

namespace Npc

variable {n n' : Npc} {id : String}

theorem sheet_setStatus {status : MissionStatus} (h : n.setStatus id status = .ok n') :
    n'.sheet = n.sheet := by
  obtain ⟨_, rfl⟩ := sameButBoard_setStatus h
  rfl

theorem sheet_finishMission {success : Bool} (h : n.finishMission id success = .ok n') :
    n'.sheet = n.sheet := by
  obtain ⟨mission, -, rfl⟩ := finishMission_eq_ok.1 h
  rfl

theorem sheet_offerMission (h : n.offerMission id = .ok n') : n'.sheet = n.sheet := by
  obtain ⟨_, rfl⟩ := sameButBoard_offerMission h
  rfl

theorem sheet_addMission (h : n.addMission id = .ok n') : n'.sheet = n.sheet := by
  obtain ⟨_, rfl⟩ := sameButBoard_addMission h
  rfl

theorem sheet_takeControl (h : n.takeControl = .ok n') : n'.sheet = n.sheet := by
  rw [takeControl] at h
  split at h
  · obtain rfl := Except.ok.inj h
    rfl
  · contradiction

theorem sheet_performAction (n : Npc) (action : Action) :
    (n.performAction action).sheet = n.sheet := by
  cases action <;> rfl

end Npc

end Parley
