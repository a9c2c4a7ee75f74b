import Parley.Proofs.Steps

/-!
# Effects that are aimed

Some effects can be aimed at either actor. Such an effect acts on the actor that content names for
it, and on nothing else: the other actor, the global variables, the topics, the missions taken on
and the request to hand over stay as they are, also where the effect fails and where its parameters
are taken from the other actor.
-/

namespace Parley

/-- Can an effect of the kind be aimed at either actor? -/
def EffectKind.isAimed : EffectKind → Bool
  | .addTrait .. | .removeTrait .. | .mutate .. | .addEffect .. | .removeEffect .. | .addBionic ..
  | .removeBionic .. | .spawnItem .. | .consumeItem .. | .removeItemWith .. | .castSpell ..
  | .addMorale .. | .loseMorale .. | .message .. | .sound .. | .modHealthy .. | .modFatigue ..
  | .addWet .. | .assignActivity .. | .teleport .. | .spawnMonster .. | .learnRecipe .. => true
  | _ => false

/-- Whatever is read from an object is as `P` says of the actor that the object names. -/
def Fields.Aims {γ : Type} (P : Except Slip Target → γ → Prop) (f : Fields γ) : Prop :=
  ∀ fields, Ensures (P (Target.field.ofObject fields)) (f.ofObject fields)

namespace Fields.Aims

variable {γ δ : Type} {P : Except Slip Target → δ → Prop}

theorem pure {a : δ} (h : ∀ t, P t a) : (Pure.pure a : Fields δ).Aims P :=
  fun _ => ensures_ok (h _)

theorem seq {f : Fields (γ → δ)} {x : Fields γ} (hf : f.Aims fun t g => ∀ a, P t (g a)) :
    (f <*> x).Aims P := by
  intro fields b h
  obtain ⟨g, a, hg, -, rfl⟩ := ofObject_seq h
  exact hf fields g hg a

theorem map {x : Fields γ} {g : γ → δ} (hg : ∀ t a, P t (g a)) : (g <$> x).Aims P :=
  seq (pure hg)

/-- The target that is read is the one that the rest of the effect gets. -/
theorem target {g : Target → δ} (hg : ∀ t, P (.ok t) (g t)) : (g <$> Target.field).Aims P := by
  intro fields b h
  obtain ⟨g', t, hg', ht, rfl⟩ := ofObject_seq h
  obtain rfl : g = g' := Except.ok.inj hg'
  rw [ht]
  exact hg t

end Fields.Aims

namespace Effect

/-- An effect that can be aimed at either actor is aimed at the one named. -/
def AimedAt (t : Except Slip Target) (x : Except Failure Effect) : Prop :=
  Ensures (fun e => e.kind.isAimed = true → t = .ok e.target) x

theorem aimedAt_ok {kind : EffectKind} {t : Target} : AimedAt (.ok t) (.ok ⟨kind, t⟩) :=
  ensures_ok fun _ => rfl

/-- Nothing is asked of an effect that is not aimed. -/
theorem aimedAt_of_fixed {t : Except Slip Target} {e : Effect} (h : e.kind.isAimed = false) :
    AimedAt t (.ok e) := ensures_ok fun aimed => Bool.noConfusion (h.symm.trans aimed)

theorem aimed_aims {key : String} {kind : String → EffectKind} :
    (aimed key kind).Aims AimedAt := .seq (.target fun _ _ => aimedAt_ok)

theorem aimedAmount_aims {kind : IntRef → EffectKind} : (aimedAmount kind).Aims AimedAt :=
  .seq (.target fun _ _ => ensures_bind fun _ => aimedAt_ok)

theorem named_aims {key : String} {kind : String → EffectKind}
    (h : ∀ id, (kind id).isAimed = false) : (named key kind).Aims AimedAt :=
  .map fun _ id => aimedAt_of_fixed (h id)

/-- Every type of effect takes its target from the object or cannot be aimed. -/
theorem typed_aims {type : String} {fields : Fields (Except Failure Effect)}
    (h : typed type = some fields) : fields.Aims AimedAt := by
  unfold typed at h
  split at h
  all_goals first | contradiction | obtain rfl := Option.some.inj h
  -- Many effects are of one of three forms; the others follow in order.
  all_goals try first
    | exact aimed_aims
    | exact aimedAmount_aims
    | exact named_aims fun _ => rfl
  · exact .seq (.map fun _ _ _ => ensures_bind fun _ => aimedAt_of_fixed rfl)
  · exact .map fun _ _ => ensures_bind fun _ => aimedAt_of_fixed rfl
  · refine .seq (.map fun _ _ _ => ?_)
    exact ensures_bind fun _ => ensures_bind fun _ => aimedAt_of_fixed rfl
  · refine .seq (.map fun _ _ _ => ?_)
    exact ensures_bind fun _ => ensures_bind fun _ => aimedAt_of_fixed rfl
  · refine .seq (.seq (.map fun _ _ _ _ => ?_))
    exact ensures_bind fun _ => ensures_bind fun _ => aimedAt_of_fixed rfl
  · exact .seq (.seq (.target fun _ _ _ => aimedAt_ok))
  · refine .seq (.seq (.seq (.target fun _ _ _ _ => ?_)))
    exact ensures_bind fun _ => ensures_bind fun _ => aimedAt_ok
  · exact .seq (.seq (.seq (.target fun _ _ _ _ => ensures_bind fun _ => aimedAt_ok)))
  · refine .seq (.seq (.seq (.map fun _ _ _ _ _ => ?_)))
    exact ensures_bind fun _ => ensures_bind fun _ => aimedAt_of_fixed rfl
  · refine .seq (.seq (.map fun _ _ _ _ => ?_))
    exact ensures_bind fun _ => ensures_bind fun _ => aimedAt_of_fixed rfl
  · exact .seq (.seq (.target fun _ _ _ => ensures_bind fun _ => aimedAt_ok))
  · exact .map fun _ _ => ensures_bind fun _ => aimedAt_of_fixed rfl
  · exact .map fun _ _ => ensures_bind fun _ => aimedAt_of_fixed rfl
  · exact .map fun _ _ => ensures_bind fun _ => aimedAt_of_fixed rfl
  · exact .seq (.map fun _ _ _ => aimedAt_of_fixed rfl)
  · exact .map fun _ _ => ensures_bind fun _ => aimedAt_of_fixed rfl
  · exact .seq (.seq (.target fun _ _ _ => aimedAt_ok))
  · refine .seq (.seq (.seq (.seq (.seq (.seq (.target fun _ _ _ _ _ _ _ => ?_))))))
    refine ensures_bind fun _ => ensures_bind fun _ => ?_
    exact ensures_bind fun _ => ensures_bind fun _ => aimedAt_ok
  · exact .seq (.seq (.target fun _ _ _ => ensures_bind fun _ => aimedAt_ok))
  · exact .seq (.seq (.seq (.target fun _ _ _ _ => ensures_bind fun _ => aimedAt_ok)))
  · refine .seq (.seq (.target fun _ _ _ => ?_))
    exact ensures_bind fun _ => ensures_bind fun _ => aimedAt_ok
  · exact .seq (.seq (.target fun _ _ _ => ensures_bind fun _ => aimedAt_ok))
  · exact .seq (.seq (.target fun _ _ _ => aimedAt_ok))
  · exact .seq (.seq (.seq (.seq (.target fun _ _ _ _ _ => ensures_bind fun _ => aimedAt_ok))))
  · exact .map fun _ _ => aimedAt_of_fixed rfl
  · exact .pure fun _ => aimedAt_of_fixed rfl

/-- Effects that are written as a name cannot be aimed. -/
theorem ofName_fixed (name : String) : Ensures (·.kind.isAimed = false) (ofName name) := by
  refine .ite (fun _ => ensures_ok rfl) fun _ => ?_
  split
  · exact ensures_ok rfl
  · exact ensures_error

/-- An effect that can be aimed is aimed at the actor that content names. -/
theorem target_of_ofJson {j : Json} {e : Effect} (accepted : ofJson j = .ok e)
    (aimed : e.kind.isAimed = true) : Target.field.readObject j = .ok e.target := by
  unfold ofJson at accepted
  split at accepted
  · rename_i name
    exact Bool.noConfusion ((ofName_fixed name e accepted).symm.trans aimed)
  · rename_i members
    split at accepted
    · contradiction
    · rename_i type _
      cases known : typed type with rw [known] at accepted
      | none => contradiction
      | some fields =>
        have target : Ensures (AimedAt (Target.field.ofObject members))
            (fields.readObject (.obj members)) := (typed_aims known members).mapError
        have named := (target.mapError (g := _)).bind (fun _ => id) e accepted aimed
        change (Target.field.ofObject members).mapError _ = _
        rw [named]
        rfl
  · contradiction

end Effect

/-- Nothing but one of the actors and the random generator differs between two encounters. -/
def Encounter.AlikeBut {α β : Type} (t : Target) (e e' : Encounter α β) : Prop :=
  match t with
  | .u => e' = { e with scene := { e.scene with u := e'.scene.u }, generator := e'.generator }
  | .npc =>
    e' = { e with scene := { e.scene with npc := e'.scene.npc }, generator := e'.generator }

theorem Encounter.AlikeBut.trans {α β : Type} {t : Target} {e e' e'' : Encounter α β}
    (h : e.AlikeBut t e') (h' : e'.AlikeBut t e'') : e.AlikeBut t e'' := by
  cases t with
  | u =>
    unfold Encounter.AlikeBut at h h' ⊢
    rw [h] at h'
    exact h'
  | npc =>
    unfold Encounter.AlikeBut at h h' ⊢
    rw [h] at h'
    exact h'

/-- Encounters that are alike are alike but for any target. -/
theorem Encounter.Alike.alikeBut {α β : Type} {e e' : Encounter α β} (h : e.Alike e')
    (t : Target) : e.AlikeBut t e' := by
  rw [h]
  cases t <;> rfl

namespace Act

variable {α β γ δ : Type}

/-- However the deed turns out, it changes nothing but one of the actors and the random
generator. -/
def Aims (t : Target) (m : Act α β γ) : Prop :=
  ∀ e : Encounter α β, e.AlikeBut t (m.perform e).2

variable {t : Target} {m : Act α β γ} {f : γ → Act α β δ}

theorem Looks.aims (hm : m.Looks) : m.Aims t := fun e => (hm e).alikeBut t

theorem Aims.bind (hm : m.Aims t) (hf : ∀ a, (f a).Aims t) : (m >>= f).Aims t :=
  perform_bind_of id hm hf id .trans

variable [Actor α] [Actor β]

theorem aims_tell? {f : {δ : Type} → [Actor δ] → δ → Except Failure δ} :
    (tell? t f : Act α β Unit).Aims t := by
  intro e
  rcases succeeds_or_fails (tell? t f) e with ⟨_, h⟩ | ⟨failure, h⟩
  · obtain ⟨s, told, after⟩ := succeeds_tell?.1 h
    rw [after]
    cases t with
    | u =>
      obtain ⟨u, -, rfl⟩ := Scene.tell?_u_eq_ok.1 told
      rfl
    | npc =>
      obtain ⟨npc, -, rfl⟩ := Scene.tell?_npc_eq_ok.1 told
      rfl
  · exact (clean_tell? e failure _ h).alikeBut t

end Act

/-- Variables are not written by effects that can be aimed. -/
theorem EffectKind.written?_of_isAimed {kind : EffectKind} (aimed : kind.isAimed = true) :
    kind.written? = none := by
  cases kind <;> first | rfl | contradiction

open Act in
/-- Each deed of an aimed effect stays with its target. -/
theorem EffectKind.Steps.aims {α β : Type} [Actor α] [Actor β] {kind : EffectKind} {t : Target}
    {m : Act α β Unit} (h : kind.Steps t m) (aimed : kind.isAimed = true) : m.Aims t := by
  induction h with
  | peek first _ ih => exact first.looks.aims.bind fun a => ih a aimed
  | tell => exact aims_tell?
  | write named =>
    rw [EffectKind.written?_of_isAimed aimed] at named
    contradiction
  | _ => contradiction

namespace Effect

variable {α β : Type} [Actor α] [Actor β]

open Act

/-- An effect that can be aimed at either actor acts on the one that content names, the player
where it names none. However the effect turns out, everything else stays exactly as it is: the
other actor, the global variables, the topics, the missions taken on, and the request to hand
over. -/
theorem acts_on_target_only {j : Json} {e : Effect} (accepted : ofJson j = .ok e)
    (aimed : e.kind.isAimed = true) (enc : Encounter α β) :
    Target.field.readObject j = .ok e.target ∧ enc.AlikeBut e.target (e.execute.perform enc).2 :=
  ⟨target_of_ofJson accepted aimed, e.execute_steps.aims aimed enc⟩

/-- The spell is cast by the other speaker, though it is the player whose place is looked up and
who does not know the spell. -/
theorem spell_cast_by_other :
    let j : Json := .obj [("spell", .str "spark"), ("target", .str "npc"), ("targeted", .bool true),
      ("type", .str "cast_spell")]
    let e : Effect := ⟨.castSpell "spark" true, .npc⟩
    let u : Player := .ofSheet (.new "Bob")
    let npc : Npc := .ofSheet { Sheet.new "Ann" with knownSpells := .ofNames ["spark"] }
    let enc : Encounter Player Npc :=
      { scene :=
          { u, npc, globals := .empty, current := { id := "TALK" }, earlier := []
            missionsAssigned := [], byRadio := false }
        generator := .ofSeed 0, handoff := none }
    ofJson j = .ok e ∧ Target.field.readObject j = .ok .npc ∧
      enc.AlikeBut .npc (e.execute.perform enc).2 ∧
      (e.execute.perform enc).2.scene.npc.sheet.spellsCast = ["spark"] := by
  intro j e u npc enc
  have accepted : ofJson j = .ok e := rfl
  obtain ⟨target, alike⟩ := acts_on_target_only accepted rfl enc
  exact ⟨accepted, target, alike, rfl⟩

end Effect

end Parley
