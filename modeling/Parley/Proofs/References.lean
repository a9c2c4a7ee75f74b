import Parley.Effect.Reader
import Parley.Proofs.Loading

/-!
# References in content

Content refers to variables at many places: wherever it may give a value, and where it writes one.
All of these are resolved while the content is read, so what is read names only variables that
have a store and a name. The readers are followed combinator by combinator; the trees that they
build by their own recursion.
-/

namespace Parley

/-! ### The variables of a tree -/

/-- A variable that can be looked up. -/
structure Variable.Usable (var : Variable) : Prop where
  notFaction : var.scope ≠ .faction
  notParty : var.scope ≠ .party
  named : var.name ≠ ""

/-- The variable that is named instead of a value. -/
def Operand.vars {γ : Type} : Operand γ → List Variable
  | .literal _ => []
  | .stored var _ => [var]

/-- The variables that a value or the ends of a range are taken from. -/
def Quantity.vars {γ : Type} : Quantity γ → List Variable
  | .single part => part.vars
  | .range lo hi => lo.vars ++ hi.vars

mutual

/-- The variables in a formula. -/
def Formula.vars : Formula → List Variable
  | .ref value => value.vars
  | .fold _ first rest => first.vars ++ Formula.varsAll rest
  | .binary _ left right => left.vars ++ right.vars
  | .unary _ arg => arg.vars

/-- The variables in formulas. -/
def Formula.varsAll : List Formula → List Variable
  | [] => []
  | f :: rest => f.vars ++ Formula.varsAll rest

end

mutual

/-- The variables in a condition. -/
def Condition.vars : Condition → List Variable
  | .and all => Condition.varsAll all
  | .or any => Condition.varsAll any
  | .not inner => inner.vars
  | .hasItem _ _ count => count.vars
  | .hasItemCategory _ _ count => count.vars
  | .skillAtLeast _ _ level => level.vars
  | .statAtLeast _ _ value => value.vars
  | .factionTrustAtLeast value => value.vars
  | .opinion _ _ value => value.vars
  | .hasCash _ amount => amount.vars
  | .withinDistance distance => distance.vars
  | .hasVar var _ => [var]
  | .moraleAtLeast _ value => value.vars
  | .compareInt lhs _ rhs => lhs.vars ++ rhs.vars
  | .compareText lhs _ rhs => lhs.vars ++ rhs.vars
  | .compareDuration lhs _ rhs => lhs.vars ++ rhs.vars
  | .math lhs _ rhs => lhs.vars ++ rhs.vars
  | _ => []

/-- The variables in conditions. -/
def Condition.varsAll : List Condition → List Variable
  | [] => []
  | c :: rest => c.vars ++ Condition.varsAll rest

end

/-- The variables that an effect looks up or writes. -/
def EffectKind.vars : EffectKind → List Variable
  | .addVar var _ => [var]
  | .removeVar var => [var]
  | .adjustVar var adjustment => var :: adjustment.vars
  | .setTextVar var value => var :: value.vars
  | .arithmetic var _ formula => var :: formula.vars
  | .addEffect _ duration intensity => (duration.map Quantity.vars).getD [] ++ intensity.vars
  | .spawnItem _ _ count => count.vars
  | .buyItem _ _ count cost => count.vars ++ cost.vars
  | .sellItem _ count cost => count.vars ++ cost.vars
  | .consumeItem _ count => count.vars
  | .spendCash amount => amount.vars
  | .addFactionRep value => value.vars
  | .addFactionTrust value => value.vars
  | .addDebt amount => amount.vars
  | .addMorale params =>
    params.bonus.vars ++ params.maxBonus.vars ++ params.duration.vars ++ params.decayStart.vars
  | .message text _ => text.vars
  | .sound _ volume _ => volume.vars
  | .modHealthy amount cap => amount.vars ++ cap.vars
  | .modFatigue amount => amount.vars
  | .addWet amount => amount.vars
  | .assignActivity _ duration => duration.vars
  | .spawnMonster _ count _ _ => count.vars
  | _ => []

/-- All of the variables can be looked up. -/
def AllUsable (vars : List Variable) : Prop := ∀ var ∈ vars, var.Usable

@[simp] theorem allUsable_nil : AllUsable [] := nofun

@[simp] theorem allUsable_cons {var : Variable} {vars : List Variable} :
    AllUsable (var :: vars) ↔ var.Usable ∧ AllUsable vars := List.forall_mem_cons

@[simp] theorem allUsable_append {vars vars' : List Variable} :
    AllUsable (vars ++ vars') ↔ AllUsable vars ∧ AllUsable vars' := List.forall_mem_append

theorem Formula.allUsable_varsAll {fs : List Formula} (h : ∀ f ∈ fs, AllUsable f.vars) :
    AllUsable (Formula.varsAll fs) := by
  induction fs with
  | nil => exact allUsable_nil
  | cons f fs ih =>
    obtain ⟨first, rest⟩ := List.forall_mem_cons.1 h
    exact allUsable_append.2 ⟨first, ih rest⟩

theorem Condition.allUsable_varsAll {cs : List Condition} (h : ∀ c ∈ cs, AllUsable c.vars) :
    AllUsable (Condition.varsAll cs) := by
  induction cs with
  | nil => exact allUsable_nil
  | cons c cs ih =>
    obtain ⟨first, rest⟩ := List.forall_mem_cons.1 h
    exact allUsable_append.2 ⟨first, ih rest⟩

/-! ### What readers yield -/

/-- Whatever the reader accepts satisfies `P`. -/
def Reader.Gives {γ : Type} (P : γ → Prop) (r : Reader γ) : Prop := ∀ j, Ensures P (r j)

/-- Whatever record is read satisfies `P`, from an object as well as from an array. -/
structure Fields.Gives {γ : Type} (P : γ → Prop) (f : Fields γ) : Prop where
  ofObject : ∀ fields, Ensures P (f.ofObject fields)
  ofArray : ∀ items, Ensures (fun result => P result.1) (f.ofArray items)

theorem Ensures.map {ε γ δ : Type} {P : γ → Prop} {Q : δ → Prop} {x : Except ε γ} {g : γ → δ}
    (hx : Ensures P x) (hg : ∀ a, P a → Q (g a)) : Ensures Q (x.map g) := by
  intro b hb
  obtain ⟨a, ha, rfl⟩ := map_eq_ok.1 hb
  exact hg a (hx a ha)

namespace Reader.Gives

variable {γ δ : Type} {P : γ → Prop} {Q : δ → Prop} {r s : Reader γ}

theorem map (hr : r.Gives P) {g : γ → δ} (hg : ∀ a, P a → Q (g a)) :
    Reader.Gives Q fun j => (r j).map g := fun j => (hr j).map hg

theorem any : r.Gives fun _ => True := fun _ _ _ => trivial

theorem either (hr : r.Gives P) (hs : s.Gives P) : (Reader.either r s).Gives P := by
  intro j a h
  unfold Reader.either at h
  split at h
  · rename_i b hb
    obtain rfl := Except.ok.inj h
    exact hr j b hb
  · split at h
    · rename_i b hb
      obtain rfl := Except.ok.inj h
      exact hs j b hb
    · contradiction

theorem nullable (hr : r.Gives P) : (Reader.nullable r).Gives fun a? => ∀ a ∈ a?, P a := by
  intro j
  unfold Reader.nullable
  split
  · exact ensures_ok nofun
  · refine (hr _).map fun a ha => ?_
    rintro _ ⟨⟩
    exact ha

end Reader.Gives

/-- Two records are read from an object if both of them are. -/
theorem Fields.ofObject_seq {γ δ : Type} {f : Fields (γ → δ)} {x : Fields γ}
    {fields : List (String × Json)} {b : δ} (h : (f <*> x).ofObject fields = .ok b) :
    ∃ g a, f.ofObject fields = .ok g ∧ x.ofObject fields = .ok a ∧ g a = b := by
  change (f.apply x).ofObject fields = .ok b at h
  unfold Fields.apply at h
  dsimp only at h
  split at h
  · rename_i g a hg ha
    exact ⟨g, a, hg, ha, Except.ok.inj h⟩
  all_goals contradiction

namespace Fields.Gives

variable {γ δ : Type} {P : γ → Prop} {Q : δ → Prop}

theorem any {f : Fields γ} : f.Gives fun _ => True :=
  ⟨fun _ _ _ => trivial, fun _ _ _ => trivial⟩

theorem pure {a : γ} (h : P a) : (Pure.pure a : Fields γ).Gives P :=
  ⟨fun _ => ensures_ok h, fun _ => ensures_ok h⟩

theorem seq {f : Fields (γ → δ)} {x : Fields γ} (hf : f.Gives fun g => ∀ a, P a → Q (g a))
    (hx : x.Gives P) : (f <*> x).Gives Q := by
  constructor
  · intro fields b h
    obtain ⟨g, a, hg, ha, rfl⟩ := ofObject_seq h
    exact hf.ofObject fields g hg a (hx.ofObject fields a ha)
  · intro items
    exact (hf.ofArray items).bind fun g hg => (hx.ofArray g.2).bind fun a ha =>
      ensures_ok (hg a.1 ha)

theorem map {x : Fields γ} {g : γ → δ} (hx : x.Gives P) (hg : ∀ a, P a → Q (g a)) :
    (g <$> x).Gives Q := seq (pure hg) hx

/-- A field gives what its reader gives, or what stands for a field that is absent or cut off. -/
theorem field {name : String} {r : Reader γ} {absent : Except Slip γ} {cut : Except ReadError γ}
    (hr : r.Gives P) (ha : Ensures P absent) (hc : Ensures P cut) :
    (Fields.field name r absent cut).Gives P := by
  constructor
  · intro fields
    unfold Fields.field
    dsimp only
    split
    · exact (hr _).mapError
    · exact ha
  · intro items
    cases items with
    | nil => exact hc.map fun _ => id
    | cons j rest => exact (hr j).map fun _ => id

theorem required {name : String} {r : Reader γ} (hr : r.Gives P) :
    (Fields.required name r).Gives P := field hr ensures_error ensures_error

theorem optional {name : String} {r : Reader γ} (hr : r.Gives P) :
    (Fields.optional name r).Gives fun a? => ∀ a ∈ a?, P a :=
  field hr.nullable (ensures_ok nofun) ensures_error

theorem orElse {name : String} {r : Reader γ} {default : γ} (hr : r.Gives P) (hd : P default) :
    (Fields.orElse name r default).Gives P := field hr (ensures_ok hd) (ensures_ok hd)

/-- What the fields give is what is read from an object. -/
theorem readObject {f : Fields γ} (hf : f.Gives P) : f.readObject.Gives P := by
  intro j
  cases j with
  | obj fields => exact (hf.ofObject fields).mapError
  | _ => exact ensures_error

/-- What the fields give is what is read, from an object as from an array. -/
theorem read {f : Fields γ} (hf : f.Gives P) : f.read.Gives P := by
  intro j
  cases j with
  | arr items =>
    refine (hf.ofArray items).bind fun result h => .ite (fun _ => ensures_ok h) fun _ => ?_
    exact ensures_error
  | obj fields => exact (hf.ofObject fields).mapError
  | _ => exact ensures_error

end Fields.Gives

/-! ### References -/

/-- A variable is only handed out if it can be looked up. -/
theorem Variable.resolve_usable (name : String) (scope : Scope) (type context : Option String) :
    Ensures Usable (resolve name scope type context) := by
  refine .ite (fun _ => ensures_error) fun supported => .ite (fun _ => ensures_error) ?_
  intro named
  refine ensures_ok ⟨?_, ?_, ?_⟩
  · rintro rfl
    exact supported rfl
  · rintro rfl
    exact supported rfl
  · simp [named]

/-- A variable that is read can be used. -/
theorem Variable.fields_usable (way : Leeway) : (fields way).Gives (Ensures Usable) := by
  refine .seq (.seq (.seq (.map .any ?_) .any) .any) .any
  exact fun name _ scope _ type _ context _ => resolve_usable name scope type context

section

variable {γ : Type} {r : Reader (Except Failure γ)}

theorem Operand.storedFields_usable : (storedFields r).Gives (Ensures (AllUsable ·.vars)) := by
  refine .seq (.seq (.seq (.seq (.map .any ?_) .any) .any) .any) .any
  intro name _ scope _ type _ context _ default? _
  refine (Variable.resolve_usable name scope type context).bind fun var usable => ?_
  cases default? with
  | some default =>
    refine ensures_bind fun value => ensures_ok ?_
    simpa [Operand.vars] using usable
  | none => exact ensures_error

/-- The variable of an operand that is read can be used. -/
theorem Operand.reader_usable : (reader r).Gives (Ensures (AllUsable ·.vars)) := by
  refine .either (.map .any fun value _ => ?_) storedFields_usable.read
  exact Ensures.map (P := fun _ => True) (fun _ _ => trivial) fun _ _ => allUsable_nil

theorem Quantity.reader_usable : (reader r).Gives (Ensures (AllUsable ·.vars)) := by
  refine .either (.map Operand.reader_usable fun part h => h.map fun _ => id) ?_
  refine Fields.Gives.readObject (.seq (.map (.required Operand.reader_usable) ?_)
    (.required Operand.reader_usable))
  intro lo hlo hi hhi
  refine hlo.bind fun lo hlo => hhi.bind fun hi hhi => ensures_ok ?_
  exact allUsable_append.2 ⟨hlo, hhi⟩

end

theorem TextRef.reader_usable : TextRef.reader.Gives (Ensures (AllUsable ·.vars)) :=
  Operand.reader_usable

theorem IntRef.reader_usable : IntRef.reader.Gives (Ensures (AllUsable ·.vars)) :=
  Quantity.reader_usable

theorem DurationRef.reader_usable : DurationRef.reader.Gives (Ensures (AllUsable ·.vars)) :=
  Quantity.reader_usable

/-! ### Formulas -/

namespace Formula

/-- An operator adds no variable to those of its arguments. -/
theorem AnyOp.vars_apply? {op : AnyOp} {args : List Formula} {f : Formula}
    (h : op.apply? args = some f) : f.vars = varsAll args := by
  unfold AnyOp.apply? at h
  split at h
  · obtain rfl := Option.some.inj h
    rfl
  · obtain rfl := Option.some.inj h
    simp [vars, varsAll]
  · obtain rfl := Option.some.inj h
    simp [vars, varsAll]
  · contradiction

/-- All variables of a formula that is read can be used, at whatever depth. -/
theorem readNested_usable (depth : Nat) (j : Json) :
    Ensures (AllUsable ·.vars) (readNested depth j) := by
  induction depth generalizing j with
  | zero => exact ensures_error
  | succ depth ih =>
    unfold readNested
    split
    · refine ensures_bind fun ⟨op, args⟩ => .ite (fun _ => ?_) fun _ => ensures_error
      refine (ensures_mapM fun arg _ => ih arg).bind fun fs usable => ?_
      split
      · rename_i f applied
        refine ensures_ok ?_
        rw [AnyOp.vars_apply? applied]
        exact allUsable_varsAll usable
      · exact ensures_error
    · exact ((IntRef.reader_usable j).mapError).bind fun ref h => h.bind fun value usable =>
        ensures_ok usable

theorem ofJson_usable (j : Json) : Ensures (AllUsable ·.vars) (ofJson j) :=
  readNested_usable j.depth j

end Formula

/-! ### Conditions -/

namespace Condition

theorem number_usable (name : String) : (number name).Gives (Ensures (AllUsable ·.vars)) :=
  .required IntRef.reader_usable

theorem count_usable : count.Gives (Ensures (AllUsable ·.vars)) :=
  .orElse IntRef.reader_usable (ensures_ok allUsable_nil)

/-- A condition of each type passes on the references that were read for it. -/
theorem typed_usable {inner : Json → Except Failure Condition}
    (hi : ∀ j, Ensures (AllUsable ·.vars) (inner j)) {type : String}
    {fields : Fields (Except Failure Condition)} (h : typed inner type = some fields) :
    fields.Gives (Ensures (AllUsable ·.vars)) := by
  -- What a condition of one number, after other data, comes from.
  have one {f : IntRef → Condition} (hf : ∀ n, (f n).vars = n.vars) {x : Except Failure IntRef}
      (hx : Ensures (AllUsable ·.vars) x) :
      Ensures (AllUsable ·.vars) (do return f (← x) : Except Failure Condition) :=
    hx.bind fun n usable => ensures_ok (by rwa [hf])
  unfold typed at h
  split at h
  all_goals first | contradiction | obtain rfl := Option.some.inj h
  · refine .map .any fun all _ => (ensures_mapM fun j _ => hi j).bind fun cs usable => ?_
    exact ensures_ok (allUsable_varsAll usable)
  · refine .map .any fun any _ => (ensures_mapM fun j _ => hi j).bind fun cs usable => ?_
    exact ensures_ok (allUsable_varsAll usable)
  · exact .map .any fun j _ => (hi j).bind fun c usable => ensures_ok usable
  · exact .seq (.map .any fun _ _ _ _ => ensures_ok allUsable_nil) .any
  · exact .seq (.map .any fun _ _ _ _ => ensures_ok allUsable_nil) .any
  · exact .seq (.map .any fun _ _ _ _ => ensures_ok allUsable_nil) .any
  · exact .seq (.seq (.map .any fun _ _ _ _ _ => one fun _ => rfl) .any) count_usable
  · exact .seq (.seq (.map .any fun _ _ _ _ _ => one fun _ => rfl) .any) count_usable
  · exact .seq (.seq (.map .any fun _ _ _ _ _ => one fun _ => rfl) .any) (number_usable _)
  · exact .seq (.seq (.map .any fun _ _ _ _ _ => one fun _ => rfl) .any) (number_usable _)
  · exact .seq (.map .any fun _ _ _ _ => ensures_ok allUsable_nil) .any
  · exact .map (number_usable _) fun _ => one fun _ => rfl
  · exact .seq (.seq (.map .any fun _ _ _ _ _ => one fun _ => rfl) .any) (number_usable _)
  · exact .seq (.map .any fun _ _ _ => one fun _ => rfl) (number_usable _)
  · exact .map (number_usable _) fun _ => one fun _ => rfl
  · refine .seq (.map (Variable.fields_usable _) fun var h _ _ => ?_) .any
    exact h.bind fun var usable => ensures_ok (by simpa [vars] using usable)
  · exact .seq (.map .any fun _ _ _ _ => ensures_ok allUsable_nil) .any
  · exact .map .any fun _ _ => ensures_ok allUsable_nil
  · exact .seq (.map .any fun _ _ _ => one fun _ => rfl) (number_usable _)
  · exact .map .any fun _ _ => ensures_ok allUsable_nil
  · refine .seq (.seq (.map (number_usable _) fun lhs hl _ _ rhs hr => ?_) .any) (number_usable _)
    exact hl.bind fun lhs hl => hr.bind fun rhs hr => ensures_ok (allUsable_append.2 ⟨hl, hr⟩)
  · refine .seq (.seq (.map (.required TextRef.reader_usable) fun lhs hl _ _ rhs hr => ?_) .any)
      (.required TextRef.reader_usable)
    exact hl.bind fun lhs hl => hr.bind fun rhs hr => ensures_ok (allUsable_append.2 ⟨hl, hr⟩)
  · refine .seq (.seq (.map (.required DurationRef.reader_usable) fun lhs hl _ _ rhs hr => ?_) .any)
      (.required DurationRef.reader_usable)
    exact hl.bind fun lhs hl => hr.bind fun rhs hr => ensures_ok (allUsable_append.2 ⟨hl, hr⟩)
  · refine .seq (.seq (.map .any fun lhs _ _ _ rhs _ => ?_) .any) .any
    refine (Formula.ofJson_usable lhs).bind fun lhs hl => ?_
    refine (Formula.ofJson_usable rhs).bind fun rhs hr => ensures_ok ?_
    exact allUsable_append.2 ⟨hl, hr⟩

/-- All variables of a condition that is read can be used, at whatever depth. -/
theorem readNested_usable (depth : Nat) (j : Json) :
    Ensures (AllUsable ·.vars) (readNested depth j) := by
  induction depth generalizing j with
  | zero => exact ensures_error
  | succ depth ih =>
    unfold readNested
    cases j with
    | bool value => exact ensures_ok allUsable_nil
    | str name =>
      dsimp only
      split
      · rename_i c known
        refine ensures_ok ?_
        have names : ∀ entry ∈ simple, AllUsable entry.2.vars := by simp [simple, vars]
        obtain ⟨before, after, split, -⟩ := List.lookup_eq_some_iff.1 known
        exact names (name, c) (by simp [split])
      · exact ensures_error
    | obj _ =>
      dsimp only
      split
      · exact ensures_error
      · split
        · exact ensures_error
        · rename_i fields known
          exact ((typed_usable ih known).readObject _).mapError.bind fun c usable => usable
    | _ => exact ensures_error

theorem ofJson_usable (j : Json) : Ensures (AllUsable ·.vars) (ofJson j) :=
  readNested_usable j.depth j

end Condition

/-! ### Effects -/

namespace Effect

open Condition (count_usable number_usable)

theorem aimed_usable {key : String} {kind : String → EffectKind}
    (free : ∀ id, (kind id).vars = []) :
    (aimed key kind).Gives (Ensures (AllUsable ·.kind.vars)) := by
  refine .seq (.map .any fun target _ id _ => ensures_ok ?_) .any
  rw [free]
  exact allUsable_nil

theorem named_usable {key : String} {kind : String → EffectKind}
    (free : ∀ id, (kind id).vars = []) :
    (named key kind).Gives (Ensures (AllUsable ·.kind.vars)) := by
  refine .map .any fun id _ => ensures_ok ?_
  rw [free]
  exact allUsable_nil

theorem aimedAmount_usable {kind : IntRef → EffectKind} (same : ∀ n, (kind n).vars = n.vars) :
    (aimedAmount kind).Gives (Ensures (AllUsable ·.kind.vars)) := by
  refine .seq (.map .any fun target _ amount h => h.bind fun n usable => ensures_ok ?_)
    (number_usable _)
  rwa [same]

theorem var_usable : var.Gives (Ensures Variable.Usable) := Variable.fields_usable _

theorem orZero_usable (name : String) : (orZero name).Gives (Ensures (AllUsable ·.vars)) :=
  .orElse IntRef.reader_usable (ensures_ok allUsable_nil)

theorem resolve?_usable {γ : Type} {q? : Option (Except Failure (Quantity γ))}
    (h : ∀ q ∈ q?, Ensures (AllUsable ·.vars) q) :
    Ensures (fun a? => AllUsable ((a?.map Quantity.vars).getD [])) (resolve? q?) := by
  cases q? with
  | some q => exact (h q rfl).map fun _ usable => usable
  | none => exact ensures_ok allUsable_nil

theorem getD_usable {γ : Type} {q? : Option (Except Failure (Quantity γ))}
    {default : Except Failure (Quantity γ)} (h : ∀ q ∈ q?, Ensures (AllUsable ·.vars) q)
    (hd : Ensures (AllUsable ·.vars) default) : Ensures (AllUsable ·.vars) (q?.getD default) := by
  cases q? with
  | some q => exact h q rfl
  | none => exact hd

/-- An effect of each type passes on the references that were read for it. -/
theorem typed_usable {type : String} {fields : Fields (Except Failure Effect)}
    (h : typed type = some fields) : fields.Gives (Ensures (AllUsable ·.kind.vars)) := by
  have one {f : IntRef → Effect} (hf : ∀ n, (f n).kind.vars = n.vars) {x : Except Failure IntRef}
      (hx : Ensures (AllUsable ·.vars) x) :
      Ensures (AllUsable ·.kind.vars) (do return f (← x) : Except Failure Effect) :=
    hx.bind fun n usable => ensures_ok (by rwa [hf])
  unfold typed at h
  split at h
  all_goals first | contradiction | obtain rfl := Option.some.inj h
  -- Many effects are of one of three forms; the others follow in order.
  all_goals try first
    | exact aimed_usable fun _ => rfl
    | exact named_usable fun _ => rfl
    | exact aimedAmount_usable fun _ => rfl
  · refine .seq (.map var_usable fun var hv value _ => hv.bind fun var hv => ensures_ok ?_) .any
    exact allUsable_cons.2 ⟨hv, allUsable_nil⟩
  · refine .map var_usable fun var hv => hv.bind fun var hv => ensures_ok ?_
    exact allUsable_cons.2 ⟨hv, allUsable_nil⟩
  · refine .seq (.map var_usable fun var hv n hn => ?_) (number_usable _)
    exact hv.bind fun var hv => hn.bind fun n hn => ensures_ok (allUsable_cons.2 ⟨hv, hn⟩)
  · refine .seq (.map var_usable fun var hv value hn => ?_) (.required TextRef.reader_usable)
    exact hv.bind fun var hv => hn.bind fun n hn => ensures_ok (allUsable_cons.2 ⟨hv, hn⟩)
  · refine .seq (.seq (.map var_usable fun var hv op _ formula _ => ?_) .any) .any
    refine hv.bind fun var hv => (Formula.ofJson_usable formula).bind fun f hf => ensures_ok ?_
    exact allUsable_cons.2 ⟨hv, hf⟩
  · exact .seq (.seq (.map .any fun _ _ _ _ _ _ => ensures_ok allUsable_nil) .any) .any
  · refine .seq (.seq (.seq (.map .any ?_) .any) (.optional DurationRef.reader_usable))
      (orZero_usable _)
    intro target _ id _ length? hl intensity hi
    refine (resolve?_usable hl).bind fun length hl => hi.bind fun n hi => ensures_ok ?_
    exact allUsable_append.2 ⟨hl, hi⟩
  · refine .seq (.seq (.seq (.map .any ?_) .any) .any) count_usable
    exact fun _ _ _ _ _ _ _ => one fun _ => rfl
  · refine .seq (.seq (.seq (.map .any fun _ _ _ _ n hn cost hc => ?_) .any) count_usable)
      (number_usable _)
    exact hn.bind fun n hn => hc.bind fun cost hc => ensures_ok (allUsable_append.2 ⟨hn, hc⟩)
  · refine .seq (.seq (.map .any fun _ _ n hn cost hc => ?_) count_usable) (number_usable _)
    exact hn.bind fun n hn => hc.bind fun cost hc => ensures_ok (allUsable_append.2 ⟨hn, hc⟩)
  · exact .seq (.seq (.map .any fun _ _ _ _ _ => one fun _ => rfl) .any) count_usable
  · exact .map (number_usable _) fun _ => one fun _ => rfl
  · exact .map (number_usable _) fun _ => one fun _ => rfl
  · exact .map (number_usable _) fun _ => one fun _ => rfl
  · exact .seq (.map .any fun _ _ _ _ => ensures_ok allUsable_nil) .any
  · exact .map (number_usable _) fun _ => one fun _ => rfl
  · exact .seq (.seq (.map .any fun _ _ _ _ _ _ => ensures_ok allUsable_nil) .any) .any
  · refine .seq (.seq (.seq (.seq (.seq (.seq (.map .any ?_) .any) (number_usable _))
      (.optional IntRef.reader_usable)) (.optional DurationRef.reader_usable))
      (.optional DurationRef.reader_usable)) .any
    intro target _ kind _ bonus hb maxBonus? hm length? hl decay? hd capped _
    refine hb.bind fun bonus hb' => (getD_usable hm hb).bind fun maxBonus hm => ?_
    have fixed (d : Duration) :
        Ensures (AllUsable ·.vars) (.ok (.literal d) : Except Failure DurationRef) :=
      ensures_ok allUsable_nil
    refine (getD_usable hl (fixed hour)).bind fun length hl => ?_
    refine (getD_usable hd (fixed halfHour)).bind fun decay hd => ensures_ok ?_
    simpa [EffectKind.vars] using ⟨hb', hm, hl, hd⟩
  · refine .seq (.seq (.map .any fun _ _ _ hn _ _ => ?_) (.required TextRef.reader_usable)) .any
    exact hn.bind fun text usable => ensures_ok usable
  · exact .seq (.seq (.seq (.map .any fun _ _ _ _ _ hn _ _ => one (fun _ => rfl) hn) .any)
      (number_usable _)) .any
  · refine .seq (.seq (.map .any fun _ _ n hn cap hc => ?_) (number_usable _)) (orZero_usable _)
    exact hn.bind fun n hn => hc.bind fun cap hc => ensures_ok (allUsable_append.2 ⟨hn, hc⟩)
  · refine .seq (.seq (.map .any fun _ _ _ _ length hl => ?_) .any)
      (.required DurationRef.reader_usable)
    exact hl.bind fun length usable => ensures_ok usable
  · exact .seq (.seq (.map .any fun _ _ _ _ _ _ => ensures_ok allUsable_nil) .any) .any
  · exact .seq (.seq (.seq (.seq (.map .any fun _ _ _ _ _ hn _ _ _ _ => one (fun _ => rfl) hn)
      .any) count_usable) .any) .any
  · exact .map .any fun _ _ => ensures_ok allUsable_nil
  · exact .pure (ensures_ok allUsable_nil)

/-- An action by its name refers to nothing. -/
theorem ofName_usable (name : String) : Ensures (AllUsable ·.kind.vars) (ofName name) := by
  refine .ite (fun _ => ensures_ok allUsable_nil) fun _ => ?_
  split
  · exact ensures_ok allUsable_nil
  · exact ensures_error

theorem ofJson_usable (j : Json) : Ensures (AllUsable ·.kind.vars) (ofJson j) := by
  unfold ofJson
  split
  · exact ofName_usable _
  · split
    · exact ensures_error
    · split
      · exact ensures_error
      · rename_i fields known
        exact ((typed_usable known).readObject _).mapError.bind fun e usable => usable
  · exact ensures_error

end Effect

end Parley
