import Parley.Proofs.Move
import Parley.Proofs.Attempts

/-!
# Well-formed sheets

A sheet is well formed when its inventory holds no empty stacks at any depth, the wetness is a
percentage, nobody is less than rested, and every passing effect has some intensity. Every effect
keeps the sheets of both actors well formed, so they are well formed throughout a conversation.
Taking items is the delicate part: a stack that is used up stays as long as there is something in
it, and its contents may be used up later in the same walk.
-/

namespace Parley

/-! ### Tidy inventories -/

namespace Item

/-- There are items in the stack, or there is none but the stack has contents. -/
def Substantial (item : Item) : Prop := 0 < item.count ∨ item.count = 0 ∧ item.contents ≠ []

instance (item : Item) : Decidable item.Substantial :=
  inferInstanceAs (Decidable (_ ∨ _ ∧ _))

/-- No stack of an inventory is empty, at any depth. -/
def Tidy (items : List Item) : Prop := ∀ item ∈ flattenAll items, item.Substantial

instance (items : List Item) : Decidable (Tidy items) :=
  inferInstanceAs (Decidable (∀ item ∈ _, _))

theorem tidy_iff {items : List Item} :
    Tidy items ↔ ∀ item ∈ items, item.Substantial ∧ Tidy item.contents := forall_mem_flattenAll_iff

theorem isKept_iff {item : Item} : item.isKept = true ↔ 0 < item.count ∨ item.contents ≠ [] := by
  simp [isKept, isContainer]

/-- No items are owed, and the contents are tidy; the stack itself may be used up. -/
def Drawn (item : Item) : Prop := 0 ≤ item.count.toInt ∧ Tidy item.contents

/-- A stack of a tidy inventory owes nothing. -/
theorem Substantial.nonneg {item : Item} (h : item.Substantial) : 0 ≤ item.count.toInt := by
  rcases h with some | ⟨none, -⟩
  · rw [Int32.lt_iff_toInt_lt, Int32.toInt_zero] at some
    omega
  · exact Int.le_of_eq (by rw [none, Int32.toInt_zero])

theorem Substantial.drawn {item : Item} (h : item.Substantial) (inner : Tidy item.contents) :
    item.Drawn := ⟨h.nonneg, inner⟩

/-- Dropping the stacks that are used up and have no contents leaves a tidy inventory. -/
theorem tidy_filter_isKept {items : List Item} (h : ∀ item ∈ items, item.Drawn) :
    Tidy (items.filter isKept) := by
  rw [tidy_iff]
  intro item mem
  obtain ⟨mem, kept⟩ := List.mem_filter.1 mem
  obtain ⟨count, inner⟩ := h item mem
  refine ⟨?_, inner⟩
  by_cases some : 0 < item.count
  · exact .inl some
  · refine .inr ⟨?_, (isKept_iff.1 kept).resolve_left some⟩
    rw [Int32.lt_iff_toInt_lt, Int32.toInt_zero] at some
    exact Int32.toInt_inj.1 (by rw [Int32.toInt_zero]; omega)

theorem toInt_left {count : Int32} {n : Nat} (h : n ≤ count.toInt.toNat) :
    (left count n h).toInt = count.toInt - n := by
  rw [left]
  rw [Int32.toInt_ofIntLE]

mutual

/-- A stack from which was taken owes nothing, and its contents are tidy. -/
theorem take_drawn (type : String) (n : Nat) (item : Item) (h : item.Drawn) :
    (take type n item).1.Drawn := by
  match item with
  | ⟨type', category, count, contents⟩ =>
    obtain ⟨owed, inner⟩ := h
    have rest := takeAll_drawn type (n - given type n type' count) contents inner
    constructor
    · change 0 ≤ (left count _ (given_le_count type n type' count)).toInt
      have enough := given_le_count type n type' count
      rw [toInt_left]
      dsimp only at owed
      omega
    · exact tidy_filter_isKept rest

/-- Taking from a tidy inventory leaves items that are drawn at most. -/
theorem takeAll_drawn (type : String) (n : Nat) (items : List Item) (h : Tidy items) :
    ∀ item ∈ (takeAll type n items).1, item.Drawn := by
  match items with
  | [] => nofun
  | first :: rest =>
    obtain ⟨⟨something, inner⟩, others⟩ := List.forall_mem_cons.1 (tidy_iff.1 h)
    rw [takeAll]
    split
    · -- Nothing is wanted any more, so the walk stops before this stack.
      intro item mem
      obtain ⟨something, inner⟩ := tidy_iff.1 h item mem
      exact something.drawn inner
    · refine List.forall_mem_cons.2 ⟨take_drawn type n first (something.drawn inner), ?_⟩
      exact takeAll_drawn type (take type n first).2 rest (tidy_iff.2 others)

end

/-- Taking items out of a tidy inventory leaves it tidy. -/
theorem tidy_remove {type : String} {n : Nat} {items : List Item} (h : Tidy items) :
    Tidy (remove type n items) := tidy_filter_isKept (takeAll_drawn type n items h)

/-- A stack more with something in it leaves a tidy inventory tidy. -/
theorem tidy_concat_plain {items : List Item} {type category : String} {count : Int32}
    (h : Tidy items) (some : 0 < count) : Tidy (items ++ [plain type category count]) := by
  rw [tidy_iff, List.forall_mem_append]
  exact ⟨tidy_iff.1 h, List.forall_mem_singleton.2 ⟨.inl some, nofun⟩⟩

end Item

/-! ### Sheets -/

/-- The belongings and the body of a character are as they should be. -/
structure Sheet.WellFormed (s : Sheet) : Prop where
  inventory : Item.Tidy s.inventory
  wetness : 0 ≤ s.wetness ∧ s.wetness ≤ 100
  fatigue : 0 ≤ s.fatigue
  effects : ∀ level ∈ s.effects.values, 1 ≤ level

theorem Sheet.wellFormed_iff {s : Sheet} :
    s.WellFormed ↔ Item.Tidy s.inventory ∧ (0 ≤ s.wetness ∧ s.wetness ≤ 100) ∧ 0 ≤ s.fatigue ∧
      ∀ level ∈ s.effects.values, 1 ≤ level :=
  ⟨fun h => ⟨h.inventory, h.wetness, h.fatigue, h.effects⟩, fun ⟨i, w, f, e⟩ => ⟨i, w, f, e⟩⟩

-- The levels are looked through one by one; to ask it of all 32-bit numbers would decide it too.
instance (s : Sheet) : Decidable s.WellFormed :=
  have : Decidable (∀ level ∈ s.effects.values, 1 ≤ level) := List.decidableBAll _ _
  decidable_of_iff' _ Sheet.wellFormed_iff

theorem le_max32 (a b : Int32) : b ≤ max a b := by
  rw [Int32.le_iff_toInt_le, toInt_max32]
  exact Int.le_max_right a.toInt b.toInt

theorem percent32_mem (n : Int32) : 0 ≤ percent32 n ∧ percent32 n ≤ 100 := by
  rw [Int32.le_iff_toInt_le, Int32.le_iff_toInt_le]
  exact within32_mem _

theorem Dict.values_insert {β : Type} {d : Dict β} {k : String} {v : β} {P : β → Prop}
    (h : ∀ v ∈ d.values, P v) (new : P v) : ∀ v' ∈ (d.insert k v).values, P v' := by
  intro v' mem
  obtain ⟨e, bound, rfl⟩ := List.mem_map.1 mem
  rcases mem_insertEntry bound with rfl | old
  · exact new
  · exact h e.2 (List.mem_map_of_mem old)

theorem Dict.values_erase {β : Type} {d : Dict β} {k : String} {P : β → Prop}
    (h : ∀ v ∈ d.values, P v) : ∀ v ∈ (d.erase k).values, P v := by
  intro v mem
  obtain ⟨e, kept, rfl⟩ := List.mem_map.1 mem
  exact h e.2 (List.mem_map_of_mem (List.mem_filter.1 kept).1)

theorem Sheet.WellFormed.of_kept {s s' : Sheet} (h : s.WellFormed) (same : s.Kept s') :
    s'.WellFormed := by
  constructor
  · rw [same.inventory]
    exact h.inventory
  · rw [same.wetness]
    exact h.wetness
  · rw [same.fatigue]
    exact h.fatigue
  · rw [same.effects]
    exact h.effects

/-- Every change that an effect can make leaves a tidy inventory tidy. -/
theorem EffectKind.Alters.tidy {kind : EffectKind} {t : Target} {s s' : Sheet}
    (change : kind.Alters t s s') (h : Item.Tidy s.inventory) : Item.Tidy s'.inventory := by
  cases change with
  | kept same =>
    rw [same.inventory]
    exact h
  | addItem _ something => exact Item.tidy_concat_plain h something
  | removeItems => exact Item.tidy_remove h
  | write | pay | addEffect | removeEffect | modFatigue | addWet => exact h

/-- Every change that an effect can make leaves a well-formed sheet well formed. -/
theorem EffectKind.Alters.wellFormed {kind : EffectKind} {t : Target} {s s' : Sheet}
    (change : kind.Alters t s s') (h : s.WellFormed) : s'.WellFormed := by
  have tidy := change.tidy h.inventory
  cases change with
  | kept same => exact h.of_kept same
  | write | pay | addItem | removeItems => exact ⟨tidy, h.wetness, h.fatigue, h.effects⟩
  | addEffect =>
    refine ⟨tidy, h.wetness, h.fatigue, Dict.values_insert h.effects ?_⟩
    exact le_max32 _ _
  | removeEffect => exact ⟨tidy, h.wetness, h.fatigue, Dict.values_erase h.effects⟩
  | modFatigue => exact ⟨tidy, h.wetness, le_max32 _ _, h.effects⟩
  | addWet => exact ⟨tidy, percent32_mem _, h.fatigue, h.effects⟩

/-! ### Moves -/

section

variable {α β : Type} [Actor α] [Actor β] {t : Target} [side : Scene.Side α β t]
  {s s' : Scene α β}

/-- To set a mark is to do what the effect that adds a variable does. -/
theorem Session.mark_alters [memory : Actor.InMemory β] (e : SpeakerEffect) (npc : β) :
    ∃ kind : EffectKind, Relation.ReflTransGen (kind.Alters .npc) (Actor.sheet npc)
      (Actor.sheet (Session.mark e npc)) := by
  rw [Session.mark]
  cases e.sentinelVar with
  | none => exact ⟨.openDialogue none, .refl⟩
  | some name =>
    have others (vars : Dict String) (name' : String) (other : name' ≠ name) :
        (vars.insert name "yes").get? name' = vars.get? name' := by
      rw [Dict.get?_insert, if_neg other]
    refine ⟨.addVar ⟨.npc, name⟩ "yes", ?_⟩
    cases memory <;> exact .single (.write rfl rfl (others _))

/-- A move changes a sheet only as effects of some kind do. -/
theorem Scene.Move.alters (moved : s.Move s') :
    ∃ kind : EffectKind, Relation.ReflTransGen (kind.Alters t) (s.sheet t) (s'.sheet t) := by
  have of_kept {sheet sheet' : Sheet} (same : sheet.Kept sheet') :
      ∃ kind : EffectKind, Relation.ReflTransGen (kind.Alters t) sheet sheet' :=
    ⟨.openDialogue none, .single (.kept same)⟩
  have of_eq {sheet sheet' : Sheet} (same : sheet' = sheet) :
      ∃ kind : EffectKind, Relation.ReflTransGen (kind.Alters t) sheet sheet' :=
    of_kept (same ▸ .refl sheet)
  cases moved with
  | attempt e enc => exact ⟨e.kind, e.execute_steps.alters enc⟩
  | mark e s =>
    cases side with
    | u => exact of_eq rfl
    | npc => exact Session.mark_alters e s.npc
  | note r s =>
    cases side with
    | u => exact of_eq rfl
    | npc => exact of_eq (Session.sheet_note r s)
  | learn r roll s =>
    cases side with
    | u => exact of_kept (Session.sheet_learn r roll s)
    | npc => exact of_eq (congrArg Actor.sheet (Session.npc_learn r roll s))
  | settle o delta s =>
    cases side with
    | u => exact of_eq (congrArg Actor.sheet (o.u_settle delta s))
    | npc => exact of_eq (o.sheet_settle delta s)
  | enter | giveReason | setRadio => cases side <;> exact of_eq rfl

/-- What every change that an effect can make preserves is preserved by every move. -/
theorem Scene.Move.preserves_sheet {P : Sheet → Prop} (moved : s.Move s')
    (step : ∀ {kind : EffectKind} {s s'}, kind.Alters t s s' → P s → P s')
    (start : P (s.sheet t)) : P (s'.sheet t) := by
  obtain ⟨kind, changes⟩ := moved.alters (t := t)
  exact EffectKind.Alters.preserves step changes start

end

/-! ### Scenes -/

section

variable {α β : Type} [Actor α] [Actor β] [Actor.InMemory α] [Actor.InMemory β]

/-- The sheets of both actors are well formed. -/
structure Scene.WellFormed (s : Scene α β) : Prop where
  u : (s.sheet .u).WellFormed
  npc : (s.sheet .npc).WellFormed

namespace Scene.WellFormed

variable {s s' : Scene α β}

theorem move (h : s.WellFormed) (moved : s.Move s') : s'.WellFormed where
  u := moved.preserves_sheet EffectKind.Alters.wellFormed h.u
  npc := moved.preserves_sheet EffectKind.Alters.wellFormed h.npc

/-- An effect keeps the sheets of both actors well formed, be it by success or by failure. -/
theorem attempt {enc : Encounter α β} (h : enc.scene.WellFormed) (e : Effect) :
    (e.attempt enc).2.scene.WellFormed := h.move (.attempt e enc)

end Scene.WellFormed

/-! ### Sessions -/

/-- While both actors are kept in memory and their sheets are well formed, every effect leaves them
well formed, be it by success or by failure, and so do all operations on the session. -/
theorem Session.sheets_stay_well_formed (s : Session α β) (start : s.scene.WellFormed) :
    (∀ e : Effect, (e.execute.perform s.encounter).2.scene.WellFormed) ∧
      ∀ ops : List Operation, (performAll ops s).scene.WellFormed := by
  constructor
  · intro e
    exact start.attempt e
  · intro ops
    exact (s.moves_performAll ops).preserves (fun moved h => h.move moved) start

end

/-- A sack of which only the contents are left stays while there is a purse in it, and no longer;
more water than there is room for ends at a hundred percent. -/
theorem Session.emptied_sack_well_formed :
    let coins := Item.plain "coin" "money" 2
    let sack : Item := ⟨"sack", "bag", 0, [coins, ⟨"purse", "bag", 1, [coins]⟩]⟩
    let u := Player.ofSheet { Sheet.new "Bob" with inventory := [sack] }
    let s : Session Player Npc := start u (.ofSheet (.new "Ann")) .empty .empty {} 0
    let drop (type : String) : Operation := .attempt ⟨.removeItemWith type, .u⟩
    let soak : Operation := .attempt ⟨.addWet (.single (.literal 500)), .u⟩
    let s₁ := performAll [drop "coin", soak] s
    let s₂ := performAll [drop "coin", soak, drop "purse"] s
    s.scene.WellFormed ∧ s₁.scene.WellFormed ∧ s₂.scene.WellFormed ∧
      (Item.flattenAll s₁.scene.u.sheet.inventory).map (·.type) = ["sack", "purse"] ∧
      s₁.scene.u.sheet.wetness = 100 ∧ s₂.scene.u.sheet.inventory.isEmpty = true := by
  intro coins sack u s drop soak s₁ s₂
  have start : s.scene.WellFormed := ⟨by decide, by decide⟩
  obtain ⟨-, run⟩ := sheets_stay_well_formed s start
  refine ⟨start, run _, run _, ?_⟩
  decide +kernel

end Parley
