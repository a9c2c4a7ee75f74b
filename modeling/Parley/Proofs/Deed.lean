import Parley.Effect.Execution

/-!
# Runs of deeds

A deed that is run from an encounter succeeds or fails. The equivalences say for each way to build
a deed how a run of it comes about from runs of its parts. Three properties of deeds are built on
them: a deed looks if it leaves everything but the random generator as it is, it is clean if it
does so whenever it fails, and it is sure if it never fails.
-/

namespace Parley

/-- Nothing but the random generator differs between two encounters. -/
def Encounter.Alike {α β : Type} (e e' : Encounter α β) : Prop :=
  e' = { e with generator := e'.generator }

namespace Encounter.Alike

variable {α β : Type} {e e' e'' : Encounter α β}

theorem refl (e : Encounter α β) : e.Alike e := rfl

theorem trans (h : e.Alike e') (h' : e'.Alike e'') : e.Alike e'' := by
  unfold Encounter.Alike at h h' ⊢
  rw [h] at h'
  exact h'

theorem of_generator (e : Encounter α β) (g : Generator) : e.Alike { e with generator := g } := rfl

end Encounter.Alike

/-- A value to which an evaluation can come, from some state of the random generator. -/
def Draw.Yields {γ : Type} (m : Draw γ) (a : γ) : Prop := ∃ g g', m.run.run g = (.ok a, g')

namespace Draw

variable {γ δ : Type}

/-- From a state of the random generator the evaluation comes to a value and leaves a state. -/
def ComesTo (m : Draw γ) (g : Generator) (a : γ) (g' : Generator) : Prop :=
  m.run.run g = (.ok a, g')

variable {m : Draw γ} {f : γ → Draw δ} {g g' : Generator} {a : γ} {c : δ}

theorem run_bind (m : Draw γ) (f : γ → Draw δ) (g : Generator) :
    (m >>= f).run.run g = match m.run.run g with
      | (.ok a, g₁) => (f a).run.run g₁
      | (.error failure, g₁) => (.error failure, g₁) := by
  simp only [ExceptT.run_bind, StateT.run_bind]
  rcases m.run.run g with ⟨_ | _, _⟩ <;> rfl

/-- A computation in two steps comes to what the second makes of the first. -/
theorem comesTo_bind :
    (m >>= f).ComesTo g c g' ↔ ∃ a g₁, m.ComesTo g a g₁ ∧ (f a).ComesTo g₁ c g' := by
  unfold ComesTo
  rw [run_bind]
  rcases m.run.run g with ⟨failure | a, g₁⟩
  · exact iff_of_false nofun nofun
  · constructor
    · exact fun h => ⟨a, g₁, rfl, h⟩
    · rintro ⟨a', g₂, first, h⟩
      cases first
      exact h

theorem comesTo_ofExcept {x : Except Failure γ} :
    (ofExcept x).ComesTo g a g' ↔ x = .ok a ∧ g = g' := Prod.mk.injEq .. ▸ Iff.rfl

end Draw

/-- One evaluation after another. -/
theorem draw_bind {γ δ : Type} (m : StateM Generator γ) (f : γ → StateM Generator δ)
    (g : Generator) : (m >>= f) g = f (m g).1 (m g).2 := rfl

/-! ### Changes of the scene that may fail -/

theorem map_eq_ok {ε γ δ : Type} {x : Except ε γ} {f : γ → δ} {b : δ} :
    x.map f = .ok b ↔ ∃ a, x = .ok a ∧ f a = b := by
  cases x <;> simp [Except.map]

theorem map_eq_error {ε γ δ : Type} {x : Except ε γ} {f : γ → δ} {err : ε} :
    x.map f = .error err ↔ x = .error err := by
  cases x <;> simp [Except.map]

namespace Scene

variable {α β : Type} [Actor α] [Actor β] {s s' : Scene α β}
  {f : {δ : Type} → [Actor δ] → δ → Except Failure δ}

theorem tell?_u_eq_ok : s.tell? .u f = .ok s' ↔ ∃ u, f s.u = .ok u ∧ s' = { s with u } := by
  rw [tell?, map_eq_ok]
  simp only [eq_comm]

theorem tell?_npc_eq_ok :
    s.tell? .npc f = .ok s' ↔ ∃ npc, f s.npc = .ok npc ∧ s' = { s with npc } := by
  rw [tell?, map_eq_ok]
  simp only [eq_comm]

theorem tell?_u_eq_error {failure : Failure} :
    s.tell? .u f = .error failure ↔ f s.u = .error failure := map_eq_error

/-- A text is written to the global variables or to those of one of the actors. -/
theorem write_cases {var : Variable} {value : Option String} (h : s.write var value = .ok s') :
    (∃ globals, s' = { s with globals }) ∨ ∃ t, s' = s.tell t (Actor.write · var.name value) := by
  unfold write at h
  cases hv : var.scope with rw [hv] at h
  | global => exact .inl ⟨_, (Except.ok.inj h).symm⟩
  | u => exact .inr ⟨.u, (Except.ok.inj h).symm⟩
  | npc => exact .inr ⟨.npc, (Except.ok.inj h).symm⟩
  | _ => contradiction

end Scene

namespace Act

variable {α β γ δ : Type}

/-- How a deed turns out in an encounter, and the encounter after it. -/
def perform (m : Act α β γ) (e : Encounter α β) : Except Failure γ × Encounter α β := m.run.run e

/-- In an encounter the deed succeeds, with a result and another encounter after it. -/
def Succeeds (m : Act α β γ) (e : Encounter α β) (a : γ) (e' : Encounter α β) : Prop :=
  m.perform e = (.ok a, e')

/-- In an encounter the deed fails, for a cause and with another encounter after it. -/
def Fails (m : Act α β γ) (e : Encounter α β) (failure : Failure) (e' : Encounter α β) : Prop :=
  m.perform e = (.error failure, e')

theorem succeeds_or_fails (m : Act α β γ) (e : Encounter α β) :
    (∃ a, m.Succeeds e a (m.perform e).2) ∨ ∃ failure, m.Fails e failure (m.perform e).2 := by
  cases h : (m.perform e).1 with
  | ok a => exact .inl ⟨a, Prod.ext h rfl⟩
  | error failure => exact .inr ⟨failure, Prod.ext h rfl⟩

/-- A deed turns out in one way only. -/
theorem succeeds_unique {m : Act α β γ} {e e₁ e₂ : Encounter α β} {a b : γ}
    (h : m.Succeeds e a e₁) (h' : m.Succeeds e b e₂) : a = b ∧ e₁ = e₂ := by
  obtain ⟨same, rest⟩ := Prod.mk.inj (h.symm.trans h')
  exact ⟨Except.ok.inj same, rest⟩

section

variable {m : Act α β γ} {f : γ → Act α β δ} {e e' : Encounter α β} {a a' : γ} {b : δ}
  {failure : Failure}

/-! ### How runs come about -/

theorem perform_bind (m : Act α β γ) (f : γ → Act α β δ) (e : Encounter α β) :
    (m >>= f).perform e = match m.perform e with
      | (.ok a, e₁) => (f a).perform e₁
      | (.error failure, e₁) => (.error failure, e₁) := by
  simp only [perform, ExceptT.run_bind, StateT.run_bind]
  rcases m.run.run e with ⟨_ | _, _⟩ <;> rfl

/-- Two deeds succeed if the first does and then the second. -/
@[simp] theorem succeeds_bind :
    (m >>= f).Succeeds e b e' ↔ ∃ a e₁, m.Succeeds e a e₁ ∧ (f a).Succeeds e₁ b e' := by
  unfold Succeeds
  rw [perform_bind]
  rcases m.perform e with ⟨_ | _, _⟩ <;> simp [and_assoc]

/-- Two deeds fail with the first, or with the second after it. -/
@[simp] theorem fails_bind :
    (m >>= f).Fails e failure e' ↔
      m.Fails e failure e' ∨ ∃ a e₁, m.Succeeds e a e₁ ∧ (f a).Fails e₁ failure e' := by
  unfold Succeeds Fails
  rw [perform_bind]
  rcases m.perform e with ⟨_ | _, _⟩ <;> simp [and_assoc]

@[simp] theorem succeeds_pure :
    (pure a : Act α β γ).Succeeds e a' e' ↔ a = a' ∧ e = e' := by
  change ((Except.ok a, e) : Except Failure γ × Encounter α β) = (.ok a', e') ↔ _
  simp

theorem perform_evaluate (q : Scene α β → Draw γ) (e : Encounter α β) :
    (evaluate q).perform e =
      (((q e.scene).run.run e.generator).1,
        { e with generator := ((q e.scene).run.run e.generator).2 }) := rfl

@[simp] theorem succeeds_evaluate {q : Scene α β → Draw γ} :
    (evaluate q).Succeeds e a e' ↔
      ∃ g, (q e.scene).run.run e.generator = (.ok a, g) ∧ e' = { e with generator := g } := by
  unfold Succeeds
  rw [perform_evaluate]
  rcases (q e.scene).run.run e.generator with ⟨result, g⟩
  constructor
  · rintro h
    obtain ⟨rfl, rfl⟩ := Prod.mk.inj h
    exact ⟨g, rfl, rfl⟩
  · rintro ⟨g', h, rfl⟩
    obtain ⟨rfl, rfl⟩ := Prod.mk.inj h
    rfl

@[simp] theorem succeeds_look {q : Scene α β → Except Failure γ} :
    (look q).Succeeds e a e' ↔ q e.scene = .ok a ∧ e = e' := Prod.mk.injEq .. ▸ Iff.rfl

theorem perform_change_of_ok {q : Scene α β → Except Failure (Scene α β)} {s : Scene α β}
    (h : q e.scene = .ok s) : (change q).perform e = (.ok (), { e with scene := s }) := by
  unfold perform change
  rw [ExceptT.run_mk, StateT.run, h]

theorem perform_change_of_error {q : Scene α β → Except Failure (Scene α β)}
    (h : q e.scene = .error failure) : (change q).perform e = (.error failure, e) := by
  unfold perform change
  rw [ExceptT.run_mk, StateT.run, h]

/-- A change of the scene that succeeds changes nothing else of the encounter. -/
@[simp] theorem succeeds_change {q : Scene α β → Except Failure (Scene α β)} {u : Unit} :
    (change q).Succeeds e u e' ↔ ∃ s, q e.scene = .ok s ∧ e' = { e with scene := s } := by
  unfold Succeeds
  cases h : q e.scene with
  | ok s =>
    rw [perform_change_of_ok h]
    simp [eq_comm]
  | error failure =>
    rw [perform_change_of_error h]
    simp

/-- A change of the scene that fails leaves the encounter as it was. -/
theorem fails_change {q : Scene α β → Except Failure (Scene α β)} :
    (change q).Fails e failure e' ↔ q e.scene = .error failure ∧ e = e' := by
  unfold Fails
  cases h : q e.scene with
  | ok s =>
    rw [perform_change_of_ok h]
    simp
  | error failure =>
    rw [perform_change_of_error h]
    simp

@[simp] theorem not_fails_handOver {h : Handoff} :
    ¬(handOver h : Act α β Unit).Fails e failure e' := by
  intro hf
  change ((Except.ok (), _) : Except Failure Unit × Encounter α β) = (.error failure, e') at hf
  simp at hf

end

section

variable [Actor α] [Actor β] {e e' : Encounter α β} {u : Unit} {failure : Failure}

@[simp] theorem succeeds_tell {t : Target} {f : {δ : Type} → [Actor δ] → δ → δ} :
    (tell t f : Act α β Unit).Succeeds e u e' ↔ e' = { e with scene := e.scene.tell t f } := by
  unfold tell
  simp

@[simp] theorem not_fails_tell {t : Target} {f : {δ : Type} → [Actor δ] → δ → δ} :
    ¬(tell t f : Act α β Unit).Fails e failure e' := by
  unfold tell
  simp [fails_change]

@[simp] theorem succeeds_tell? {t : Target}
    {f : {δ : Type} → [Actor δ] → δ → Except Failure δ} :
    (tell? t f : Act α β Unit).Succeeds e u e' ↔
      ∃ s, e.scene.tell? t f = .ok s ∧ e' = { e with scene := s } := succeeds_change

theorem fails_tell? {t : Target} {f : {δ : Type} → [Actor δ] → δ → Except Failure δ} :
    (tell? t f : Act α β Unit).Fails e failure e' ↔
      e.scene.tell? t f = .error failure ∧ e = e' := fails_change

/-- The other speaker is told first, and the player only if the other speaker does not refuse. -/
theorem perform_both_cases (f f' : {δ : Type} → [Actor δ] → δ → Except Failure δ)
    (e : Encounter α β) :
    let m : Act α β Unit := tell? .npc f >>= fun _ => tell? .u f'
    (m.perform e).2 = e ∨ ∃ npc, f e.scene.npc = .ok npc ∧
      ((∃ failure, f' e.scene.u = .error failure ∧
          m.Fails e failure { e with scene := { e.scene with npc } }) ∨
        ∃ u, f' e.scene.u = .ok u ∧
          m.Succeeds e () { e with scene := { e.scene with u, npc } }) := by
  intro m
  cases hn : f e.scene.npc with
  | error failure =>
    have refused : (tell? .npc f : Act α β Unit).Fails e failure e :=
      fails_tell?.2 ⟨map_eq_error.2 hn, rfl⟩
    exact .inl (congrArg Prod.snd (fails_bind.2 (.inl refused) : m.Fails e failure e))
  | ok npc =>
    have told : (tell? .npc f : Act α β Unit).Succeeds e ()
        { e with scene := { e.scene with npc } } :=
      succeeds_tell?.2 ⟨_, Scene.tell?_npc_eq_ok.2 ⟨npc, hn, rfl⟩, rfl⟩
    refine .inr ⟨npc, rfl, ?_⟩
    cases hu : f' e.scene.u with
    | error failure =>
      refine .inl ⟨failure, rfl, fails_bind.2 (.inr ⟨(), _, told, ?_⟩)⟩
      exact fails_tell?.2 ⟨map_eq_error.2 hu, rfl⟩
    | ok u =>
      refine .inr ⟨u, rfl, succeeds_bind.2 ⟨(), _, told, succeeds_tell?.2 ⟨_, ?_, rfl⟩⟩⟩
      exact Scene.tell?_u_eq_ok.2 ⟨u, hu, rfl⟩

@[simp] theorem succeeds_write {var : Variable} {value : Option String} :
    (write var value : Act α β Unit).Succeeds e u e' ↔
      ∃ s, e.scene.write var value = .ok s ∧ e' = { e with scene := s } := succeeds_change

end

/-! ### What a deed leads to, however it turns out -/

section

variable {τ : Type} {R S T : τ → τ → Prop}

/-- What comes of two deeds for a part of the encounter. The second one is only reached if the first
one succeeds. -/
theorem perform_bind_of (part : Encounter α β → τ) {m : Act α β γ} {f : γ → Act α β δ}
    (hm : ∀ e, R (part e) (part (m.perform e).2))
    (hf : ∀ a e, S (part e) (part ((f a).perform e).2)) (stop : ∀ {x x'}, R x x' → T x x')
    (go : ∀ {x x' x''}, R x x' → S x' x'' → T x x'') (e : Encounter α β) :
    T (part e) (part ((m >>= f).perform e).2) := by
  have first := hm e
  rw [perform_bind]
  cases h : m.perform e with | mk result e₁
  rw [h] at first
  cases result with
  | error failure => exact stop first
  | ok a => exact go first (hf a e₁)

theorem perform_change_of (part : Scene α β → τ) {q : Scene α β → Except Failure (Scene α β)}
    (refl : ∀ x, R x x) (hq : ∀ {s s'}, q s = .ok s' → R (part s) (part s'))
    (e : Encounter α β) : R (part e.scene) (part ((change q).perform e).2.scene) := by
  rcases succeeds_or_fails (change q) e with ⟨_, h⟩ | ⟨failure, h⟩
  · obtain ⟨s, hs, he⟩ := succeeds_change.1 h
    rw [he]
    exact hq hs
  · rw [← (fails_change.1 h).2]
    exact refl (part e.scene)

end

/-! ### Deeds that only look -/

/-- However the deed turns out, it changes nothing but the random generator. -/
def Looks (m : Act α β γ) : Prop := ∀ e : Encounter α β, e.Alike (m.perform e).2

/-- Where the deed fails, it has changed nothing but the random generator. -/
def Clean (m : Act α β γ) : Prop := ∀ e failure e', m.Fails e failure e' → e.Alike e'

/-- The deed never fails. -/
def Sure (m : Act α β γ) : Prop := ∀ e failure e', ¬m.Fails e failure e'

section

variable {m : Act α β γ} {f : γ → Act α β δ}

theorem looks_pure {a : γ} : (pure a : Act α β γ).Looks := fun e => .refl e

theorem looks_evaluate {q : Scene α β → Draw γ} : (evaluate q).Looks := fun e =>
  .of_generator e ((q e.scene).run.run e.generator).2

theorem looks_look {q : Scene α β → Except Failure γ} : (look q).Looks := fun e => .refl e

theorem Looks.bind (hm : m.Looks) (hf : ∀ a, (f a).Looks) : (m >>= f).Looks :=
  perform_bind_of id hm hf id .trans

/-- A deed that only looks leaves nothing behind where it fails. -/
theorem Looks.clean (hm : m.Looks) : m.Clean := by
  intro e failure e' h
  have := hm e
  rwa [h] at this

theorem Sure.clean (hm : m.Sure) : m.Clean := fun e failure e' h => (hm e failure e' h).elim

/-- A change of the scene happens as a whole or not at all. -/
theorem clean_change {q : Scene α β → Except Failure (Scene α β)} : (change q).Clean := by
  intro e failure e' h
  rw [(fails_change.1 h).2]
  exact .refl e'

theorem sure_handOver {h : Handoff} : (handOver h : Act α β Unit).Sure :=
  fun _ _ _ => not_fails_handOver

/-- Deeds that do not fail may follow one another. -/
theorem Sure.bind (hm : m.Sure) (hf : ∀ a, (f a).Sure) : (m >>= f).Sure := by
  intro e failure e' h
  rcases fails_bind.1 h with h | ⟨a, e₁, -, h⟩
  · exact hm e failure e' h
  · exact hf a e₁ failure e' h

/-- Whatever follows on a look may still fail cleanly. -/
theorem Looks.bind_clean (hm : m.Looks) (hf : ∀ a, (f a).Clean) : (m >>= f).Clean := by
  intro e failure e' h
  rcases fails_bind.1 h with h | ⟨a, e₁, ha, h⟩
  · exact hm.clean e failure e' h
  · have first := hm e
    rw [ha] at first
    exact first.trans (hf a e₁ failure e' h)

/-- Whatever follows on a change must not fail any more. -/
theorem Clean.bind_sure (hm : m.Clean) (hf : ∀ a, (f a).Sure) : (m >>= f).Clean := by
  intro e failure e' h
  rcases fails_bind.1 h with h | ⟨a, e₁, -, h⟩
  · exact hm e failure e' h
  · exact (hf a e₁ failure e' h).elim

end

/-! ### Steps that effects share -/

section

variable [Actor α] [Actor β]

theorem sure_tell {t : Target} {f : {δ : Type} → [Actor δ] → δ → δ} :
    (tell t f : Act α β Unit).Sure := fun _ _ _ => not_fails_tell

theorem clean_tell? {t : Target} {f : {δ : Type} → [Actor δ] → δ → Except Failure δ} :
    (tell? t f : Act α β Unit).Clean := clean_change

theorem clean_write {var : Variable} {value : Option String} :
    (write var value : Act α β Unit).Clean := clean_change

theorem clean_store {var : Variable} {n : Int64} : (store var n : Act α β Unit).Clean :=
  clean_write

theorem looks_int {ref : IntRef} : (int ref : Act α β Int64).Looks := looks_evaluate

theorem looks_int32 {ref : IntRef} : (int32 ref : Act α β Int32).Looks :=
  looks_int.bind fun _ => looks_pure

theorem looks_duration {ref : DurationRef} : (duration ref : Act α β Duration).Looks :=
  looks_evaluate

theorem looks_text {ref : TextRef} : (text ref : Act α β String).Looks := looks_look

theorem looks_count {item : String} {ref : IntRef} : (count item ref : Act α β Int32).Looks :=
  looks_int.bind fun _ => looks_look

theorem looks_stored {var : Variable} : (stored var : Act α β Int64).Looks := looks_look

section

variable {P : {γ : Type} → Act α β γ → Prop}
  (looks : ∀ {γ : Type} {m : Act α β γ}, m.Looks → P m)
  (bind : ∀ {γ δ : Type} {m : Act α β γ} {f : γ → Act α β δ}, P m → (∀ a, P (f a)) → P (m >>= f))
  (pay : ∀ (t : Target) (delta : Int64), P (tell t (Actor.addCash · delta)))

include looks bind pay

/-- What holds of looks, of payments and of taking the item, and goes over from one deed to the
next, holds of a purchase. -/
theorem buy_of {item : Item} {cost : Int64} (take : P (tell? .u (Actor.addItem · item))) :
    P (buy item cost) := by
  refine bind (looks looks_look) fun _ => bind (looks looks_look) fun _ => ?_
  exact bind (pay .u _) fun _ => bind (pay .npc _) fun _ => take

/-- What holds of looks, of payments and of handing the items over, and goes over from one deed to
the next, holds of a sale. -/
theorem sell_of {type : String} {count : Int32} {cost : Int64}
    (hand : P (tell? .u (Actor.removeItems · type count)))
    (take : ∀ category, P (tell? .npc (Actor.addItem · (.plain type category count)))) :
    P (sell type count cost) := by
  refine bind (looks looks_look) fun _ => bind (looks looks_look) fun category => ?_
  refine bind (looks looks_look) fun _ => bind (looks looks_look) fun _ => ?_
  refine bind hand fun _ => bind (take category) fun _ => ?_
  exact bind (pay .npc _) fun _ => pay .u _

end

end

/-! ### Steps that effects share, where they succeed -/

section

variable [Actor α] [Actor β] {e e' : Encounter α β}

/-- An integer that a deed looks up is one that its reference yields, at the cost of draws. -/
theorem succeeds_int {ref : IntRef} {n : Int64} (h : (int ref).Succeeds e n e') :
    (ref.evaluate e.scene).Yields n ∧ ∃ g, e' = { e with generator := g } := by
  obtain ⟨g, hg, rfl⟩ := succeeds_evaluate.1 h
  exact ⟨⟨_, g, hg⟩, g, rfl⟩

/-- A number of items that a deed looks up is positive, and narrowed to 32 bits. -/
theorem succeeds_count {item : String} {ref : IntRef} {n : Int32}
    (h : (count item ref).Succeeds e n e') :
    ∃ m, (ref.evaluate e.scene).Yields m ∧ 0 < m ∧ n = narrow m ∧
      ∃ g, e' = { e with generator := g } := by
  obtain ⟨m, e₁, hm, hn⟩ := succeeds_bind.1 h
  obtain ⟨given, drawn⟩ := succeeds_int hm
  obtain ⟨hp, rfl⟩ := succeeds_look.1 hn
  unfold positiveCount at hp
  split at hp
  · contradiction
  · rename_i hle
    obtain rfl := Except.ok.inj hp
    exact ⟨m, given, Int64.not_le.1 hle, rfl, drawn⟩

/-- Who buys had the money, took the item, and has paid for it. -/
theorem succeeds_buy {item : Item} {price : Int64} {u : Unit}
    (h : (buy item price : Act α β Unit).Succeeds e u e') :
    ensureFunds e.scene.u price = .ok () ∧ ensureAccepts e.scene.u item = .ok () ∧
      ∃ s, ((e.scene.tell .u (Actor.addCash · (neg64 price))).tell .npc
        (Actor.addCash · price)).tell? .u (Actor.addItem · item) = .ok s ∧
        e' = { e with scene := s } := by
  obtain ⟨_, e₁, hf, h⟩ := succeeds_bind.1 h
  obtain ⟨funds, rfl⟩ := succeeds_look.1 hf
  obtain ⟨_, e₂, ha, h⟩ := succeeds_bind.1 h
  obtain ⟨accepted, rfl⟩ := succeeds_look.1 ha
  obtain ⟨_, e₃, hu, h⟩ := succeeds_bind.1 h
  obtain rfl := succeeds_tell.1 hu
  obtain ⟨_, e₄, hc, h⟩ := succeeds_bind.1 h
  obtain rfl := succeeds_tell.1 hc
  obtain ⟨s, added, rfl⟩ := succeeds_tell?.1 h
  exact ⟨funds, accepted, s, added, rfl⟩

/-- Who sells had the items, and the other one had the money, took them, and has paid for them. -/
theorem succeeds_sell {type : String} {count : Int32} {price : Int64} {u : Unit}
    (h : (sell type count price : Act α β Unit).Succeeds e u e') :
    let item := Item.plain type (Item.categoryOf type (Actor.inventory e.scene.u)) count
    ¬Actor.itemCount e.scene.u type < count ∧ ensureFunds e.scene.npc price = .ok () ∧
      ensureAccepts e.scene.npc item = .ok () ∧
      ∃ s₁ s₂, e.scene.tell? .u (Actor.removeItems · type count) = .ok s₁ ∧
        s₁.tell? .npc (Actor.addItem · item) = .ok s₂ ∧
        e' = { e with scene :=
          (s₂.tell .npc (Actor.addCash · (neg64 price))).tell .u (Actor.addCash · price) } := by
  intro item
  obtain ⟨_, e₁, ho, h⟩ := succeeds_bind.1 h
  obtain ⟨owned, rfl⟩ := succeeds_look.1 ho
  obtain ⟨category, e₂, hc, h⟩ := succeeds_bind.1 h
  obtain ⟨categorized, rfl⟩ := succeeds_look.1 hc
  obtain rfl := Except.ok.inj categorized
  obtain ⟨_, e₃, hf, h⟩ := succeeds_bind.1 h
  obtain ⟨funds, rfl⟩ := succeeds_look.1 hf
  obtain ⟨_, e₄, ha, h⟩ := succeeds_bind.1 h
  obtain ⟨accepted, rfl⟩ := succeeds_look.1 ha
  obtain ⟨_, e₅, hr, h⟩ := succeeds_bind.1 h
  obtain ⟨s₁, removed, rfl⟩ := succeeds_tell?.1 hr
  obtain ⟨_, e₆, hd, h⟩ := succeeds_bind.1 h
  obtain ⟨s₂, added, rfl⟩ := succeeds_tell?.1 hd
  obtain ⟨_, e₇, hm, h⟩ := succeeds_bind.1 h
  obtain rfl := succeeds_tell.1 hm
  obtain rfl := succeeds_tell.1 h
  refine ⟨fun few => ?_, funds, accepted, s₁, s₂, removed, added, rfl⟩
  rw [if_pos few] at owned
  contradiction

end

end Act

end Parley
