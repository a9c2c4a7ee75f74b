import Parley.Proofs.Loading

/-!
# Topics from several records

What is known of a topic is what its definitions come to when they are merged in the order in which
they are loaded: text by text, record by record and id by id. So it matters in which order the
records of one id come, but not in which texts they stand or what stands between them. A record
that cannot be used gives no definition; one whose reading is broken off by a fault ends the load,
and then what was added before it stays.
-/

namespace Parley

/-! ### Merging -/

namespace Topic

/-- What definitions of one topic come to. -/
def mergeAll : List Topic → Option Topic
  | [] => none
  | t :: later => some (later.foldl merge t)

theorem isSome_mergeAll {ts : List Topic} : (mergeAll ts).isSome = true ↔ ts ≠ [] := by
  cases ts with
  | nil => exact ⟨nofun, fun h => absurd rfl h⟩
  | cons t ts => exact ⟨fun _ => List.cons_ne_nil _ _, fun _ => rfl⟩

/-- It does not matter which of three definitions are merged first. -/
theorem merge_assoc (t t' t'' : Topic) : (t.merge t').merge t'' = t.merge (t'.merge t'') := by
  unfold merge
  simp only [Option.or_assoc, List.append_assoc]

theorem foldl_merge (t t' : Topic) (later : List Topic) :
    later.foldl merge (t.merge t') = t.merge (later.foldl merge t') := by
  induction later generalizing t' with
  | nil => rfl
  | cons t'' later ih => rw [List.foldl_cons, List.foldl_cons, merge_assoc, ih]

/-- Definitions may be merged in portions. -/
theorem mergeAll_append (ts later : List Topic) :
    mergeAll (ts ++ later) = mergeAll ((mergeAll ts).toList ++ (mergeAll later).toList) := by
  cases ts with
  | nil => cases later <;> rfl
  | cons t ts =>
    cases later with
    | nil => rw [List.append_nil]; rfl
    | cons t' later =>
      change some ((ts ++ t' :: later).foldl merge t) = _
      rw [List.foldl_append, List.foldl_cons, foldl_merge]
      rfl

theorem build_id (id : String) (w : Written) : Ensures (·.id = id) (build id w) :=
  ensures_bind fun _ => ensures_bind fun _ => ensures_bind fun _ => ensures_bind fun _ =>
    ensures_ok rfl

/-- What is written under an id gives a topic of that id. -/
theorem ofWritten_eq_ok {w : Written} {id : String} {t : Topic} :
    ofWritten w id = .ok t ↔ t.id = id ∧ build t.id w = .ok t := by
  rw [ofWritten, mapError_eq_ok]
  constructor
  · intro built
    rw [build_id id w t built]
    exact ⟨rfl, built⟩
  · rintro ⟨rfl, built⟩
    exact built

theorem allOfJson_eq_ok {record : Json} {ts : List Topic} :
    allOfJson record = .ok ts ↔ ∃ w, fields.read record = .ok w ∧ allOfWritten w = .ok ts := by
  rw [allOfJson]
  cases fields.read record with
  | error e => exact ⟨nofun, nofun⟩
  | ok w =>
    constructor
    · intro h
      exact ⟨w, rfl, h⟩
    · rintro ⟨_, ⟨⟩, h⟩
      exact h

/-- A record that can be used gives one definition for each of its ids, in their order. -/
theorem allOfWritten_eq_ok {w : Written} {ts : List Topic} :
    allOfWritten w = .ok ts ↔ ts.map (·.id) = w.ids ∧ ∀ t ∈ ts, build t.id w = .ok t := by
  rw [allOfWritten, mapM_eq_ok]
  generalize w.ids = ids
  induction ts generalizing ids with
  | nil => cases ids <;> simp
  | cons t ts ih =>
    cases ids with
    | nil => simp
    | cons id ids =>
      rw [List.map_cons, List.map_cons, List.map_cons, List.cons.injEq, List.cons.injEq, ih,
        ofWritten_eq_ok, List.forall_mem_cons]
      constructor
      · rintro ⟨⟨rfl, built⟩, same, rest⟩
        exact ⟨⟨rfl, same⟩, built, rest⟩
      · rintro ⟨⟨rfl, same⟩, built, rest⟩
        exact ⟨⟨rfl, built⟩, same, rest⟩

end Topic

/-! ### Definitions that are added -/

namespace Registry

/-- Inserting a definition concerns its own id only, and merges it behind the earlier ones. -/
theorem get?_insert (r : Registry) (t : Topic) (id : String) :
    (r.insert t).get? id =
      if t.id = id then Topic.mergeAll ((r.get? id).toList ++ [t]) else r.get? id := by
  rw [get?, insert, Dict.get?_insert]
  by_cases same : t.id = id
  · subst same
    rw [if_pos rfl, if_pos rfl]
    cases r.get? t.id <;> rfl
  · rw [if_neg same, if_neg (Ne.symm same)]
    rfl

/-- Of definitions that are added, those of a topic are merged into what is known of it. -/
theorem get?_insertAll (r : Registry) (ts : List Topic) (id : String) :
    (r.insertAll ts).get? id =
      Topic.mergeAll ((r.get? id).toList ++ ts.filter (·.id = id)) := by
  induction ts generalizing r with
  | nil =>
    change r.get? id = _
    cases r.get? id <;> rfl
  | cons t ts ih =>
    change ((r.insert t).insertAll ts).get? id = _
    rw [ih, get?_insert, List.filter_cons]
    by_cases same : t.id = id
    · rw [if_pos same, if_pos (decide_eq_true same)]
      cases r.get? id <;> rfl
    · rw [if_neg same, if_neg (by rwa [decide_eq_true_eq])]

/-- Definitions may be added in one go or in several. -/
theorem insertAll_append (r : Registry) (ts later : List Topic) :
    r.insertAll (ts ++ later) = (r.insertAll ts).insertAll later := List.foldl_append

/-- Registries with the same topics are equal. -/
theorem ext_get? {r r' : Registry} (h : ∀ id, r.get? id = r'.get? id) : r = r' := by
  obtain ⟨topics⟩ := r
  exact congrArg mk (Dict.ext_get? h)

/-! ### Records -/

/-- A record that is to define topics. -/
abbrev IsTopic (record : Json) : Prop :=
  (record.field? "type").bind Json.string? = some "talk_topic"

/-- The definitions that a record gives, if it is one of topics and can be used. -/
def given (record : Json) : List Topic :=
  if IsTopic record then (Topic.allOfJson record).toOption.getD [] else []

/-- A record of topics whose reading is broken off. -/
def Breaks (record : Json) : Prop :=
  IsTopic record ∧ ∃ cause, Topic.allOfJson record = .error (.fault cause)

/-- Does a record define the topic of an id? -/
def names (id : String) (record : Json) : Bool := (given record).any (·.id = id)

/-- A record that does not break off gives its definitions, be it by giving none. -/
theorem definitions_eq {record : Json} (h : ¬Breaks record) :
    definitions record = .ok (given record) := by
  by_cases topic : IsTopic record
  · rw [definitions, given, if_pos topic, if_pos topic]
    cases read : Topic.allOfJson record with
    | ok ts => rfl
    | error failure =>
      cases failure with
      | fault cause => exact absurd ⟨topic, cause, read⟩ h
      | _ => rfl
  · rw [definitions, given, if_neg topic, if_neg topic]

/-- A record that breaks off does so by a fault. -/
theorem definitions_of_breaks {record : Json} (h : Breaks record) :
    ∃ cause, definitions record = .error (.fault cause) := by
  obtain ⟨topic, cause, read⟩ := h
  refine ⟨cause, ?_⟩
  rw [definitions, if_pos topic, read]

theorem breaks_iff {record : Json} : Breaks record ↔ (definitions record).isOk = false := by
  constructor
  · intro h
    obtain ⟨cause, read⟩ := definitions_of_breaks h
    rw [read]
    rfl
  · intro failed
    refine Classical.byContradiction fun h => ?_
    rw [definitions_eq h] at failed
    cases failed

instance (record : Json) : Decidable (Breaks record) := decidable_of_iff _ breaks_iff.symm

/-- A record defines the topics of its ids, if it is one of topics and can be used. -/
theorem names_iff {id : String} {record : Json} :
    names id record = true ↔ IsTopic record ∧ ∃ w ts, Topic.fields.read record = .ok w ∧
      Topic.allOfWritten w = .ok ts ∧ id ∈ w.ids := by
  have defined (ts : List Topic) : ts.any (·.id = id) = true ↔ id ∈ ts.map (·.id) := by
    simp only [List.any_eq_true, decide_eq_true_eq, List.mem_map]
  rw [names, given]
  by_cases topic : IsTopic record
  · rw [if_pos topic, defined]
    constructor
    · intro mem
      cases read : Topic.allOfJson record with
      | error failure =>
        rw [read] at mem
        cases mem
      | ok ts =>
        rw [read] at mem
        obtain ⟨w, written, all⟩ := Topic.allOfJson_eq_ok.1 read
        exact ⟨topic, w, ts, written, all, (Topic.allOfWritten_eq_ok.1 all).1 ▸ mem⟩
    · rintro ⟨-, w, ts, written, all, mem⟩
      rw [Topic.allOfJson_eq_ok.2 ⟨w, written, all⟩]
      rwa [← (Topic.allOfWritten_eq_ok.1 all).1] at mem
  · rw [if_neg topic]
    exact ⟨nofun, fun h => absurd h.1 topic⟩

/-- The definitions of one topic are given by the records that define it. -/
theorem filter_flatMap_given (id : String) (l : List Json) :
    (l.flatMap given).filter (·.id = id) =
      ((l.filter (names id)).flatMap given).filter (·.id = id) := by
  induction l with
  | nil => rfl
  | cons record l ih =>
    rw [List.flatMap_cons, List.filter_append, ih, List.filter_cons]
    split
    · rw [List.flatMap_cons, List.filter_append]
    · rename_i other
      rw [List.filter_eq_nil_iff.2, List.nil_append]
      intro t mem same
      exact other (List.any_eq_true.2 ⟨t, mem, same⟩)

/-! ### Texts -/

/-- The records of a text; none if it is not JSON. -/
def recordsOf (text : String) : List Json := ((Json.parse text).map records).getD []

/-- The records of texts, each of which has a source. -/
def recordsIn (texts : List (String × String)) : List Json := texts.flatMap (recordsOf ·.2)

/-- The number of definitions that loading a text returns, if it returns one. -/
def returned (r : Registry) (source text : String) : Nat :=
  match (r.load source text).1 with
  | .ok n => n
  | .error _ => 0

/-- The sum of the numbers that are returned when texts are loaded one after another. -/
def total : Registry → List (String × String) → Nat
  | _, [] => 0
  | r, t :: texts => r.returned t.1 t.2 + total (r.afterLoad t.1 t.2) texts

variable {l : List Json} {text : String} {texts : List (String × String)}

theorem map_zero_add {ε : Type} (count : Except ε Nat) : count.map (0 + ·) = count := by
  simp only [Nat.zero_add]
  cases count <;> rfl

/-- Records are added one by one, so those that can be used may be taken off the front. -/
theorem addRecords_append (r : Registry) (rest : List Json)
    (whole : ∀ record ∈ l, ¬Breaks record) :
    r.addRecords (l ++ rest) =
      (((r.insertAll (l.flatMap given)).addRecords rest).1.map ((l.flatMap given).length + ·),
        ((r.insertAll (l.flatMap given)).addRecords rest).2) := by
  induction l generalizing r with
  | nil =>
    change r.addRecords rest = ((r.addRecords rest).1.map (0 + ·), (r.addRecords rest).2)
    rw [map_zero_add]
  | cons record l ih =>
    obtain ⟨first, later⟩ := List.forall_mem_cons.1 whole
    rw [List.cons_append, addRecords, definitions_eq first, List.flatMap_cons, insertAll_append,
      List.length_append]
    dsimp only
    rw [ih _ later]
    cases (((r.insertAll (given record)).insertAll (l.flatMap given)).addRecords rest).1 with
    | error failure => rfl
    | ok count => simp only [Except.map, Nat.add_assoc]

/-- Without a record that breaks the load off, all that the records give is added and counted. -/
theorem addRecords_eq (r : Registry) (whole : ∀ record ∈ l, ¬Breaks record) :
    r.addRecords l = (.ok (l.flatMap given).length, r.insertAll (l.flatMap given)) := by
  have all := addRecords_append r [] whole
  rw [List.append_nil] at all
  exact all

/-- Of the records around one that breaks the load off, those before it are added. -/
theorem addRecords_of_breaks (r : Registry) (after : List Json) {record : Json} {cause : Fault}
    (whole : ∀ record ∈ l, ¬Breaks record) (topic : IsTopic record)
    (read : Topic.allOfJson record = .error (.fault cause)) :
    r.addRecords (l ++ record :: after) =
      (.error (.fault cause), r.insertAll (l.flatMap given)) := by
  rw [addRecords_append r _ whole, addRecords, definitions, if_pos topic, read]
  rfl

/-- A record that gives no definition might as well not be there. -/
theorem addRecords_without (r : Registry) (before after : List Json) {record : Json}
    (skipped : definitions record = .ok []) :
    r.addRecords (before ++ record :: after) = r.addRecords (before ++ after) := by
  induction before generalizing r with
  | nil =>
    change r.addRecords (record :: after) = r.addRecords after
    rw [addRecords, skipped]
    change ((r.addRecords after).1.map (0 + ·), (r.addRecords after).2) = _
    rw [map_zero_add]
  | cons earlier before ih =>
    rw [List.cons_append, List.cons_append, addRecords, addRecords]
    cases definitions earlier with
    | error failure => rfl
    | ok ts =>
      dsimp only
      rw [ih]

/-- Of the records that break a load off, one comes first. -/
theorem exists_first_break (broken : ∃ record ∈ l, Breaks record) :
    ∃ before record after, l = before ++ record :: after ∧
      (∀ earlier ∈ before, ¬Breaks earlier) ∧ Breaks record := by
  obtain ⟨record, mem, breaks⟩ := broken
  have some : (l.find? fun record => decide (Breaks record)).isSome = true :=
    List.find?_isSome.2 ⟨record, mem, decide_eq_true breaks⟩
  obtain ⟨first, found⟩ := Option.isSome_iff_exists.1 some
  obtain ⟨breaks, before, after, same, whole⟩ := List.find?_eq_some_iff_append.1 found
  exact ⟨before, first, after, same, fun earlier mem => by simpa using whole earlier mem,
    of_decide_eq_true breaks⟩

/-- A text that is not JSON changes nothing. -/
theorem load_of_parse_eq_none (r : Registry) (source : String) (h : Json.parse text = none) :
    r.load source text = (.error (ReadError.invalidJson.inContent source), r) := by
  rw [load, h]

/-- What is loaded is what the records give. -/
theorem load_eq (r : Registry) (source : String) {j : Json} (parsed : Json.parse text = some j)
    (whole : ∀ record ∈ records j, ¬Breaks record) :
    r.load source text =
      (.ok ((records j).flatMap given).length, r.insertAll ((records j).flatMap given)) := by
  rw [load, parsed]
  exact addRecords_eq r whole

/-- A text with a record that breaks the load off adds what the records before it give. -/
theorem load_of_breaks (r : Registry) (source : String) {before after : List Json} {record : Json}
    {cause : Fault} (split : recordsOf text = before ++ record :: after)
    (whole : ∀ earlier ∈ before, ¬Breaks earlier) (topic : IsTopic record)
    (read : Topic.allOfJson record = .error (.fault cause)) :
    r.load source text = (.error (.fault cause), r.insertAll (before.flatMap given)) := by
  rw [recordsOf] at split
  rw [load]
  cases parsed : Json.parse text with
  | none =>
    rw [parsed] at split
    cases before <;> cases split
  | some j =>
    rw [parsed] at split
    change records j = _ at split
    dsimp only
    rw [split]
    exact addRecords_of_breaks r after whole topic read

/-- Loading is broken off by the records whose reading is, and by nothing else. -/
theorem load_eq_fault_iff {r : Registry} {source : String} :
    (∃ cause, (r.load source text).1 = .error (.fault cause)) ↔
      ∃ record ∈ recordsOf text, Breaks record := by
  constructor
  · rintro ⟨cause, broken⟩
    refine Classical.byContradiction fun whole => ?_
    cases parsed : Json.parse text with
    | none =>
      rw [load_of_parse_eq_none r source parsed] at broken
      cases broken
    | some j =>
      rw [recordsOf, parsed] at whole
      rw [load_eq r source parsed fun record mem breaks => whole ⟨record, mem, breaks⟩] at broken
      cases broken
  · intro broken
    obtain ⟨before, record, after, split, whole, topic, cause, read⟩ := exists_first_break broken
    exact ⟨cause, by rw [load_of_breaks r source split whole topic read]⟩

/-- A text adds to the registry what its records give, and the number that is returned for it is
that of its definitions. -/
theorem load_adds (r : Registry) (source : String)
    (whole : ∀ record ∈ recordsOf text, ¬Breaks record) :
    r.afterLoad source text = r.insertAll ((recordsOf text).flatMap given) ∧
      r.returned source text = ((recordsOf text).flatMap given).length := by
  rw [recordsOf] at whole ⊢
  rw [afterLoad, returned]
  cases parsed : Json.parse text with
  | none =>
    rw [load_of_parse_eq_none r source parsed]
    exact ⟨rfl, rfl⟩
  | some j =>
    rw [parsed] at whole
    rw [load_eq r source parsed whole]
    exact ⟨rfl, rfl⟩

/-- Where no record breaks off, loading texts adds the definitions of all their records. -/
theorem foldl_afterLoad (r : Registry) (whole : ∀ record ∈ recordsIn texts, ¬Breaks record) :
    texts.foldl (fun r t => r.afterLoad t.1 t.2) r =
      r.insertAll ((recordsIn texts).flatMap given) := by
  induction texts generalizing r with
  | nil => rfl
  | cons t texts ih =>
    obtain ⟨first, rest⟩ := List.forall_mem_append.1 whole
    rw [List.foldl_cons, (load_adds r t.1 first).1, ih _ rest, ← insertAll_append,
      ← List.flatMap_append]
    rfl

/-- Where no record breaks off, the counts of all texts add up to the number of definitions. -/
theorem total_eq (r : Registry) (whole : ∀ record ∈ recordsIn texts, ¬Breaks record) :
    r.total texts = ((recordsIn texts).flatMap given).length := by
  induction texts generalizing r with
  | nil => rfl
  | cons t texts ih =>
    obtain ⟨first, rest⟩ := List.forall_mem_append.1 whole
    rw [total, ih _ rest, (load_adds r t.1 first).2, ← List.length_append, ← List.flatMap_append]
    rfl

/-- The topic of an id, when texts have been loaded. -/
theorem get?_loaded (whole : ∀ record ∈ recordsIn texts, ¬Breaks record) (id : String) :
    (loaded texts).get? id =
      Topic.mergeAll (((recordsIn texts).flatMap given).filter (·.id = id)) := by
  rw [loaded, foldl_afterLoad _ whole, get?_insertAll]
  rfl

/-- What records give defines the ids that one of them names. -/
theorem contains_insertAll {id : String} : (empty.insertAll (l.flatMap given)).contains id = true ↔
    ∃ record ∈ l, names id record = true := by
  change ((empty.insertAll (l.flatMap given)).get? id).isSome = true ↔ _
  rw [get?_insertAll, Topic.isSome_mergeAll]
  change (l.flatMap given).filter (·.id = id) ≠ [] ↔ _
  constructor
  · intro some
    obtain ⟨t, mem⟩ := List.exists_mem_of_ne_nil _ some
    obtain ⟨mem, same⟩ := List.mem_filter.1 mem
    obtain ⟨record, mem, gives⟩ := List.mem_flatMap.1 mem
    exact ⟨record, mem, List.any_eq_true.2 ⟨t, gives, same⟩⟩
  · rintro ⟨record, mem, names⟩
    obtain ⟨t, gives, same⟩ := List.any_eq_true.1 names
    exact List.ne_nil_of_mem
      (List.mem_filter.2 ⟨List.mem_flatMap.2 ⟨record, mem, gives⟩, same⟩)

/-- Where no record breaks off, a topic is there exactly if a record names it. -/
theorem contains_loaded (whole : ∀ record ∈ recordsIn texts, ¬Breaks record) {id : String} :
    (loaded texts).contains id = true ↔ ∃ record ∈ recordsIn texts, names id record = true := by
  rw [loaded, foldl_afterLoad _ whole, contains_insertAll]

/-- What is known of an id depends on the records that define it, and on their order. -/
theorem get?_loaded_congr {texts' : List (String × String)}
    (whole : ∀ record ∈ recordsIn texts, ¬Breaks record)
    (whole' : ∀ record ∈ recordsIn texts', ¬Breaks record) {id : String}
    (same : (recordsIn texts).filter (names id) = (recordsIn texts').filter (names id)) :
    (loaded texts).get? id = (loaded texts').get? id := by
  rw [get?_loaded whole, get?_loaded whole', filter_flatMap_given, same, ← filter_flatMap_given]

/-- Texts may be loaded in portions, and what is known from each is merged. -/
theorem get?_loaded_append {texts' : List (String × String)}
    (whole : ∀ record ∈ recordsIn texts, ¬Breaks record)
    (whole' : ∀ record ∈ recordsIn texts', ¬Breaks record) (id : String) :
    (loaded (texts ++ texts')).get? id =
      Topic.mergeAll (((loaded texts).get? id).toList ++ ((loaded texts').get? id).toList) := by
  have all : recordsIn (texts ++ texts') = recordsIn texts ++ recordsIn texts' :=
    List.flatMap_append
  have whole'' : ∀ record ∈ recordsIn (texts ++ texts'), ¬Breaks record := by
    rw [all]
    exact List.forall_mem_append.2 ⟨whole, whole'⟩
  rw [get?_loaded whole, get?_loaded whole', get?_loaded whole'', all, List.flatMap_append,
    List.filter_append, Topic.mergeAll_append]

/-- A text whose records are cut in two gives what the two portions give one after the other. -/
theorem afterLoad_cut (r : Registry) (source source₁ source₂ : String) {first second : List Json}
    {text₁ text₂ : String} (parsed : Json.parse text = some (.arr (first ++ second)))
    (parsed₁ : Json.parse text₁ = some (.arr first))
    (parsed₂ : Json.parse text₂ = some (.arr second))
    (whole : ∀ record ∈ first ++ second, ¬Breaks record) :
    r.afterLoad source text = (r.afterLoad source₁ text₁).afterLoad source₂ text₂ := by
  have portions : recordsOf text₁ = first ∧ recordsOf text₂ = second := by
    rw [recordsOf, recordsOf, parsed₁, parsed₂]
    exact ⟨rfl, rfl⟩
  have all : recordsOf text = recordsOf text₁ ++ recordsOf text₂ := by
    rw [recordsOf, parsed, portions.1, portions.2]
    rfl
  rw [← portions.1, ← portions.2] at whole
  obtain ⟨whole₁, whole₂⟩ := List.forall_mem_append.1 whole
  rw [(load_adds r source₁ whole₁).1, (load_adds _ source₂ whole₂).1, ← insertAll_append,
    ← List.flatMap_append, ← all]
  exact (load_adds r source (all ▸ whole)).1

/-- A record that is skipped might as well not be there. -/
theorem load_without (r : Registry) (source : String) {before after : List Json} {record : Json}
    {text' : String} (parsed : Json.parse text = some (.arr (before ++ record :: after)))
    (parsed' : Json.parse text' = some (.arr (before ++ after)))
    (skipped : definitions record = .ok []) : r.load source text = r.load source text' := by
  rw [load, load, parsed, parsed']
  exact addRecords_without r before after skipped

/-- Topics come about by merging. Loading is broken off where the reading of a record is, and then
the records before that one have been added and those after it have not; else it refuses only what
is not JSON. Without a break what is known of an id is what its definitions come to, as the
records give them in order, each of them one for every id that it lists; so something is known of
the ids of the records that can be used, and of no others. Nothing else matters: not the records of
other ids, nor the texts in which records stand, nor records that cannot be used. -/
theorem loading_merges (r : Registry) (source text : String)
    (texts texts' : List (String × String)) :
    ((∃ cause, (r.load source text).1 = .error (.fault cause)) ↔
        ∃ record ∈ recordsOf text, Breaks record) ∧
      (∀ before record after cause, recordsOf text = before ++ record :: after →
        (∀ earlier ∈ before, ¬Breaks earlier) → IsTopic record →
        Topic.allOfJson record = .error (.fault cause) →
        r.load source text = (.error (.fault cause), r.insertAll (before.flatMap given))) ∧
      (Json.parse text = none →
        r.load source text = (.error (ReadError.invalidJson.inContent source), r)) ∧
      (∀ j, Json.parse text = some j → (∀ record ∈ records j, ¬Breaks record) →
        r.load source text =
          (.ok ((records j).flatMap given).length, r.insertAll ((records j).flatMap given))) ∧
      (∀ record w ts, IsTopic record → Topic.fields.read record = .ok w →
        Topic.allOfWritten w = .ok ts → given record = ts ∧ ts.map (·.id) = w.ids ∧
          ∀ t ∈ ts, Topic.build t.id w = .ok t) ∧
      ((∀ record ∈ recordsIn texts, ¬Breaks record) →
        (∀ id, (loaded texts).get? id =
          Topic.mergeAll (((recordsIn texts).flatMap given).filter (·.id = id))) ∧
        (∀ id, (loaded texts).contains id = true ↔ ∃ record ∈ recordsIn texts, IsTopic record ∧
          ∃ w ts, Topic.fields.read record = .ok w ∧ Topic.allOfWritten w = .ok ts ∧
            id ∈ w.ids) ∧
        empty.total texts = ((recordsIn texts).flatMap given).length ∧
        ((∀ record ∈ recordsIn texts', ¬Breaks record) →
          (∀ id, (recordsIn texts).filter (names id) = (recordsIn texts').filter (names id) →
            (loaded texts).get? id = (loaded texts').get? id) ∧
          ((∀ id, (recordsIn texts).filter (names id) = (recordsIn texts').filter (names id)) →
            loaded texts = loaded texts') ∧
          ∀ id, (loaded (texts ++ texts')).get? id = Topic.mergeAll
            (((loaded texts).get? id).toList ++ ((loaded texts').get? id).toList))) ∧
      (∀ source₁ source₂ text₁ text₂ first second, Json.parse text = some (.arr (first ++ second)) →
        Json.parse text₁ = some (.arr first) → Json.parse text₂ = some (.arr second) →
        (∀ record ∈ first ++ second, ¬Breaks record) →
        r.afterLoad source text = (r.afterLoad source₁ text₁).afterLoad source₂ text₂) ∧
      ∀ text' before record after failure,
        Json.parse text = some (.arr (before ++ record :: after)) →
        Json.parse text' = some (.arr (before ++ after)) →
        Topic.allOfJson record = .error failure → (∀ cause, failure ≠ .fault cause) →
        r.load source text = r.load source text' := by
  refine ⟨load_eq_fault_iff, fun _ _ _ _ => load_of_breaks r source,
    load_of_parse_eq_none r source, fun _ => load_eq r source, ?_, ?_,
    fun source₁ source₂ _ _ _ _ => afterLoad_cut r source source₁ source₂, ?_⟩
  · intro record w ts topic written all
    refine ⟨?_, Topic.allOfWritten_eq_ok.1 all⟩
    rw [given, if_pos topic, Topic.allOfJson_eq_ok.2 ⟨w, written, all⟩]
    rfl
  · intro whole
    refine ⟨get?_loaded whole, fun id => ?_, total_eq empty whole, fun whole' =>
      ⟨fun _ => get?_loaded_congr whole whole', fun same => ?_, get?_loaded_append whole whole'⟩⟩
    · simp only [contains_loaded whole, names_iff]
    · exact ext_get? fun id => get?_loaded_congr whole whole' (same id)
  · intro text' before record after failure parsed parsed' read cured
    refine load_without r source parsed parsed' ?_
    have kept : ¬Breaks record := by
      rintro ⟨-, cause, broken⟩
      rw [read] at broken
      exact cured cause (Except.error.inj broken)
    rw [definitions_eq kept, given, read]
    split <;> rfl

/-- A record with a duration whose seconds overflow when its milliseconds are carried over. -/
def waiting : Json := .obj [("id", .str "WAIT"), ("speaker_effect", .obj [("condition", .obj
  [("lhs", .str "18446744073709551615s1000ms"), ("op", .str "<"), ("rhs", .num (.int 1)),
    ("type", .str "compare_duration")]), ("effect", .arr [])]), ("type", .str "talk_topic")]

/-- A text in which that record stands between two that can be used. -/
def waitingText : String :=
  "[\x7b\"id\":\"TALK\",\"type\":\"talk_topic\"\x7d,"
    ++ "\x7b\"id\":\"WAIT\",\"type\":\"talk_topic\",\"speaker_effect\":\x7b\"effect\":[],"
    ++ "\"condition\":\x7b\"type\":\"compare_duration\",\"op\":\"<\",\"rhs\":1,"
    ++ "\"lhs\":\"18446744073709551615s1000ms\"\x7d\x7d\x7d,"
    ++ "\x7b\"id\":\"NEWS\",\"type\":\"talk_topic\"\x7d]"

/-- The duration of this record is beyond what can be represented. -/
theorem breaks_waiting : Breaks waiting := by decide +kernel

theorem recordsOf_waitingText :
    recordsOf waitingText = [.obj [("id", .str "TALK"), ("type", .str "talk_topic")]] ++
      waiting :: [.obj [("id", .str "NEWS"), ("type", .str "talk_topic")]] := by
  decide +kernel

/-- A record is skipped, one breaks the load off, and a text is cut in two. -/
theorem greeting_cut_in_two :
    let talk : Json := .obj [("id", .str "TALK"), ("type", .str "talk_topic")]
    let both : Json := .obj [("id", .arr [.str "TALK", .str "NEWS"]), ("type", .str "talk_topic")]
    let bad : Json := .obj [("id", .null), ("type", .str "talk_topic")]
    let news : Json := .obj [("id", .str "NEWS"), ("type", .str "talk_topic")]
    let talkText := "\x7b\"type\":\"talk_topic\",\"id\":\"TALK\"\x7d"
    let bothText := "\x7b\"type\":\"talk_topic\",\"id\":[\"TALK\",\"NEWS\"]\x7d"
    let badText := "\x7b\"type\":\"talk_topic\",\"id\":null\x7d"
    let whole := "[" ++ talkText ++ "," ++ badText ++ "," ++ bothText ++ "]"
    let good := "[" ++ talkText ++ "," ++ bothText ++ "]"
    let cut := [("a", "[" ++ talkText ++ "]"), ("b", "[" ++ bothText ++ "]")]
    Json.parse "[" = none ∧ (empty.load "a" "[").2 = empty ∧
      Json.parse whole = some (.arr ([talk] ++ bad :: [both])) ∧
      Json.parse good = some (.arr ([talk] ++ [both])) ∧
      (∃ failure, Topic.allOfJson bad = .error failure ∧ ∀ cause, failure ≠ .fault cause) ∧
      empty.load "a" whole = empty.load "a" good ∧
      (∃ n r, empty.load "a" good = (.ok n, r)) ∧
      (∃ w ts, Topic.fields.read both = .ok w ∧ Topic.allOfWritten w = .ok ts ∧ given both = ts) ∧
      recordsOf waitingText = [talk] ++ waiting :: [news] ∧ (∀ record ∈ [talk], ¬Breaks record) ∧
      (∃ cause, Topic.allOfJson waiting = .error (.fault cause) ∧
        empty.load "a" waitingText =
          (.error (.fault cause), empty.insertAll ([talk].flatMap given))) ∧
      recordsIn cut = [talk] ++ [both] ∧ (∀ record ∈ [talk] ++ [both], ¬Breaks record) ∧
      empty.afterLoad "a" good = (empty.afterLoad "a" ("[" ++ talkText ++ "]")).afterLoad "b"
        ("[" ++ bothText ++ "]") ∧
      loaded [("a", good)] = loaded cut := by
  intro talk both bad news talkText bothText badText whole good cut
  obtain ⟨-, -, refuses, -⟩ := loading_merges empty "a" "[" [] []
  obtain ⟨-, -, -, -, -, -, -, skips⟩ := loading_merges empty "a" whole [] []
  obtain ⟨-, breaksOff, -⟩ := loading_merges empty "a" waitingText [] []
  obtain ⟨-, -, -, loads, gives, merges, cuts, -⟩ :=
    loading_merges empty "a" good [("a", good)] cut
  have refused : Json.parse "[" = none := by decide +kernel
  have parsed : Json.parse whole = some (.arr ([talk] ++ bad :: [both])) := by decide +kernel
  have parsed' : Json.parse good = some (.arr ([talk] ++ [both])) := by decide +kernel
  have parsed₁ : Json.parse ("[" ++ talkText ++ "]") = some (.arr [talk]) := by decide +kernel
  have parsed₂ : Json.parse ("[" ++ bothText ++ "]") = some (.arr [both]) := by decide +kernel
  have usable : ∀ record ∈ [talk] ++ [both], ¬Breaks record := by decide +kernel
  have unusable : Topic.allOfJson bad = .error (.content "talk_topic" "invalid data") := rfl
  obtain ⟨waits, cause, overflows⟩ := breaks_waiting
  have named : names "NEWS" both = true := by decide +kernel
  obtain ⟨topic, w, ts, written, all, -⟩ := names_iff.1 named
  have records : recordsIn [("a", good)] = [talk] ++ [both] := by
    rw [recordsIn, List.flatMap_singleton, recordsOf, parsed']
    rfl
  have records' : recordsIn cut = [talk] ++ [both] := by
    rw [recordsIn, List.flatMap_cons, List.flatMap_singleton, recordsOf, recordsOf, parsed₁,
      parsed₂]
    rfl
  have cured : ∀ cause, Failure.content "talk_topic" "invalid data" ≠ .fault cause := nofun
  obtain ⟨first, -⟩ := List.forall_mem_append.1 usable
  obtain ⟨-, -, -, alike⟩ := merges (records ▸ usable)
  obtain ⟨-, alike, -⟩ := alike (records' ▸ usable)
  exact ⟨refused, congrArg Prod.snd (refuses refused), parsed, parsed', ⟨_, unusable, cured⟩,
    skips good [talk] bad [both] _ parsed parsed' unusable cured,
    ⟨_, _, loads _ parsed' usable⟩,
    ⟨w, ts, written, all, (gives both w ts topic written all).1⟩, recordsOf_waitingText, first,
    ⟨cause, overflows, breaksOff [talk] waiting [news] cause recordsOf_waitingText first waits
      overflows⟩,
    records', usable, cuts "a" "b" _ _ [talk] [both] parsed' parsed₁ parsed₂ usable,
    alike fun id => congrArg _ (records.trans records'.symm)⟩

/-- Loading a text ends at the first record that breaks it off: known are then the topics of the
records before it. -/
theorem contains_of_breaks (source : String) {before after : List Json} {record : Json}
    (split : recordsOf text = before ++ record :: after)
    (whole : ∀ earlier ∈ before, ¬Breaks earlier) (breaks : Breaks record) :
    (∃ cause, (empty.load source text).1 = .error (.fault cause)) ∧
      ∀ id, (loaded [(source, text)]).contains id = true ↔
        ∃ record ∈ before, names id record = true := by
  obtain ⟨topic, cause, read⟩ := breaks
  have loads := load_of_breaks empty source split whole topic read
  refine ⟨⟨cause, congrArg Prod.fst loads⟩, fun id => ?_⟩
  rw [loaded, List.foldl_cons, List.foldl_nil, afterLoad, loads, contains_insertAll]

/-- A duration overflows in the second of three records. The topic before it is known and the one
after it, which could be used as well, is not. -/
theorem overflow_breaks_loading_off :
    (∃ record ∈ recordsOf waitingText, IsTopic record ∧ ∃ w ts,
        Topic.fields.read record = .ok w ∧ Topic.allOfWritten w = .ok ts ∧ "NEWS" ∈ w.ids) ∧
      (∃ cause, (empty.load "file0" waitingText).1 = .error (.fault cause)) ∧
      (loaded [("file0", waitingText)]).contains "TALK" = true ∧
      (loaded [("file0", waitingText)]).contains "NEWS" = false := by
  have usable : ∀ record ∈ [Json.obj [("id", .str "TALK"), ("type", .str "talk_topic")]],
      ¬Breaks record := by decide +kernel
  obtain ⟨broken, known⟩ :=
    contains_of_breaks "file0" recordsOf_waitingText usable breaks_waiting
  have named : names "NEWS" (.obj [("id", .str "NEWS"), ("type", .str "talk_topic")]) = true := by
    decide +kernel
  refine ⟨⟨_, ?_, names_iff.1 named⟩, broken, ?_, ?_⟩
  · rw [recordsOf_waitingText]
    exact .tail _ (.tail _ (.head _))
  · exact (known "TALK").2 ⟨_, .head _, by decide +kernel⟩
  · rw [← Bool.not_eq_true, known "NEWS"]
    decide +kernel

end Registry

end Parley
