import Mathlib.Data.Finset.Card
import Mathlib.Data.Finset.Dedup
import Parley.Actor.Sheet

/-!
# Mutations

Each attempt to mutate gives the first trait of a list that the character has not. A trait may be
listed several times, in one category or in several, and the character may have had some of the
traits before; so the number of attempts that succeed is the number of different traits that are
listed and missing. After these the character has all that is listed, and every further attempt
fails.
-/

namespace Parley.Sheet

/-- The traits that stand in a category of the pool, or, without a category, in all categories one
after the other. -/
def Pools (s : Sheet) : Option String → List String → Prop
  | some category, traits => s.mutationPool.get? category = some traits
  | none, traits => traits = s.mutationPool.values.flatten

/-- The different traits of a list that a character has not. -/
def missing (s : Sheet) (traits : List String) : Finset String :=
  traits.toFinset.filter fun t => s.traits.contains t = false

/-- A trait that the character has not, and all those before it in the list it has. -/
def FirstMissing (s : Sheet) (traits : List String) (t : String) : Prop :=
  s.traits.contains t = false ∧
    ∃ before after, traits = before ++ t :: after ∧ ∀ t' ∈ before, s.traits.contains t' = true

/-- Nothing has changed but that there are more traits, all of them from a list. -/
structure Gained (traits : List String) (s s' : Sheet) : Prop where
  rest : s' = { s with traits := s'.traits }
  keeps : ∀ t, s.traits.contains t = true → s'.traits.contains t = true
  listed : ∀ t, s'.traits.contains t = true → s.traits.contains t = true ∨ t ∈ traits

variable {s s' s'' : Sheet} {category : Option String} {traits : List String} {t : String}

theorem mem_missing : t ∈ s.missing traits ↔ t ∈ traits ∧ s.traits.contains t = false := by
  rw [missing, Finset.mem_filter, List.mem_toFinset]

theorem FirstMissing.mem (h : s.FirstMissing traits t) : t ∈ s.missing traits := by
  obtain ⟨lacks, before, after, rfl, -⟩ := h
  exact mem_missing.2 ⟨by simp, lacks⟩

/-- Looking for a missing trait finds the first one. -/
theorem find?_eq_some_iff :
    (traits.find? fun t => !s.traits.contains t) = some t ↔ s.FirstMissing traits t := by
  rw [List.find?_eq_some_iff_append]
  simp [FirstMissing]

/-- Looking for a missing trait finds nothing if there is none. -/
theorem find?_eq_none_iff :
    (traits.find? fun t => !s.traits.contains t) = none ↔ s.missing traits = ∅ := by
  rw [List.find?_eq_none, Finset.eq_empty_iff_forall_notMem]
  simp [mem_missing]

theorem contains_withTrait {t' : String} :
    (s.withTrait t).traits.contains t' = true ↔ t' = t ∨ s.traits.contains t' = true :=
  Dict.contains_insert

/-- Gaining a trait takes it, and no other, from those that are missing. -/
theorem missing_withTrait : (s.withTrait t).missing traits = (s.missing traits).erase t := by
  ext t'
  rw [Finset.mem_erase, mem_missing, mem_missing, ← Bool.not_eq_true, ← Bool.not_eq_true,
    contains_withTrait, not_or]
  exact and_left_comm

theorem mutations_eq (pool : s.Pools category traits) : s.mutations category = .ok traits := by
  cases category with
  | none => exact congrArg Except.ok (Eq.symm pool)
  | some category =>
    have listed : s.mutationPool.get? category = some traits := pool
    rw [mutations, listed]

/-- Mutating gives the first missing trait. -/
theorem mutate_of_firstMissing (pool : s.Pools category traits) (h : s.FirstMissing traits t) :
    s.mutate category = .ok (s.withTrait t) :=
  mutate_eq_ok.2 ⟨traits, t, mutations_eq pool, find?_eq_some_iff.2 h, rfl⟩

/-- Without a missing trait there is no mutation. -/
theorem mutate_of_missing_eq_empty (pool : s.Pools category traits) (h : s.missing traits = ∅) :
    s.mutate category = .error (.lookup .mutation (category.getD "any")) := by
  simp only [mutate, mutations_eq pool, bind, Except.bind, find?_eq_none_iff.2 h]

/-- While a trait is missing, one comes first. -/
theorem exists_firstMissing (h : 0 < (s.missing traits).card) :
    ∃ t, s.FirstMissing traits t := by
  cases hf : traits.find? fun t => !s.traits.contains t with
  | some t => exact ⟨t, find?_eq_some_iff.1 hf⟩
  | none =>
    rw [find?_eq_none_iff.1 hf, Finset.card_empty] at h
    contradiction

namespace Gained

theorem refl (traits : List String) (s : Sheet) : s.Gained traits s :=
  ⟨rfl, fun _ => id, fun _ => .inl⟩

/-- Gaining a listed trait leaves nothing but listed traits gained. -/
theorem withTrait (h : s.Gained traits s') (listed : t ∈ traits) :
    s.Gained traits (s'.withTrait t) where
  rest := by
    rw [h.rest]
    rfl
  keeps t' owned := contains_withTrait.2 (.inr (h.keeps t' owned))
  listed t' owned := by
    rcases contains_withTrait.1 owned with rfl | owned
    · exact .inr listed
    · exact h.listed t' owned

/-- What can be gained does not depend on what was gained. -/
theorem pools (h : s.Gained traits s') (pool : s.Pools category traits) :
    s'.Pools category traits := by
  rw [h.rest]
  cases category with
  | none => exact pool
  | some category => exact pool

/-- All that is listed is owned in the end if nothing is missing. -/
theorem contains_iff (h : s.Gained traits s') (none : s'.missing traits = ∅) :
    s'.traits.contains t = true ↔ s.traits.contains t = true ∨ t ∈ traits := by
  constructor
  · exact h.listed t
  · rintro (owned | listed)
    · exact h.keeps t owned
    · by_contra lacks
      have missing : t ∈ s'.missing traits := mem_missing.2 ⟨listed, Bool.not_eq_true _ ▸ lacks⟩
      simp [none] at missing

end Gained

/-- The sheet after a number of attempts to mutate. An attempt that fails changes nothing. -/
def afterMutating (s : Sheet) (category : Option String) : Nat → Sheet
  | 0 => s
  | n + 1 => match (s.afterMutating category n).mutate category with
    | .ok s' => s'
    | .error _ => s.afterMutating category n

theorem afterMutating_succ_of_ok {n : Nat}
    (h : (s.afterMutating category n).mutate category = .ok s') :
    s.afterMutating category (n + 1) = s' := by
  rw [afterMutating, h]

theorem afterMutating_succ_of_error {n : Nat} {failure : Failure}
    (h : (s.afterMutating category n).mutate category = .error failure) :
    s.afterMutating category (n + 1) = s.afterMutating category n := by
  rw [afterMutating, h]

/-- Each attempt gives one of the missing traits as long as there are any. -/
theorem gained_afterMutating (pool : s.Pools category traits) (n : Nat) :
    s.Gained traits (s.afterMutating category n) ∧
      ((s.afterMutating category n).missing traits).card = (s.missing traits).card - n := by
  induction n with
  | zero => exact ⟨.refl traits s, rfl⟩
  | succ n ih =>
    obtain ⟨gained, left⟩ := ih
    by_cases exhausted : (s.afterMutating category n).missing traits = ∅
    · rw [afterMutating_succ_of_error (mutate_of_missing_eq_empty (gained.pools pool) exhausted)]
      rw [exhausted, Finset.card_empty] at left ⊢
      exact ⟨gained, by omega⟩
    · have some := Finset.card_pos.2 (Finset.nonempty_iff_ne_empty.2 exhausted)
      obtain ⟨t, first⟩ := exists_firstMissing some
      rw [afterMutating_succ_of_ok (mutate_of_firstMissing (gained.pools pool) first)]
      refine ⟨gained.withTrait (mem_missing.1 first.mem).1, ?_⟩
      rw [missing_withTrait, Finset.card_erase_of_mem first.mem, left]
      omega

/-- Mutating exhausts the pool: as many attempts succeed as there are different traits that are
listed and missing, and each of them gives the first trait that is missing then. Every further
attempt fails and leaves the sheet as it is. After the attempts that succeed the character has the
traits from before and all that are listed, and nothing else has changed. -/
theorem mutation_exhausts_pool (pool : s.Pools category traits) :
    (∀ n < (s.missing traits).card, ∃ t,
      (s.afterMutating category n).FirstMissing traits t ∧
      (s.afterMutating category n).mutate category =
        .ok ((s.afterMutating category n).withTrait t) ∧
      s.afterMutating category (n + 1) = (s.afterMutating category n).withTrait t) ∧
    (∀ n ≥ (s.missing traits).card,
      (s.afterMutating category n).mutate category =
        .error (.lookup .mutation (category.getD "any")) ∧
      s.afterMutating category (n + 1) = s.afterMutating category n) ∧
    s.afterMutating category (s.missing traits).card =
      { s with traits := (s.afterMutating category (s.missing traits).card).traits } ∧
    ∀ t, (s.afterMutating category (s.missing traits).card).traits.contains t = true ↔
      s.traits.contains t = true ∨ t ∈ traits := by
  have exhausted {n : Nat} (h : n ≥ (s.missing traits).card) :
      (s.afterMutating category n).missing traits = ∅ := by
    rw [← Finset.card_eq_zero, (gained_afterMutating pool n).2]
    omega
  refine ⟨fun n early => ?_, fun n late => ?_, ?_, fun t => ?_⟩
  · obtain ⟨gained, left⟩ := gained_afterMutating pool n
    obtain ⟨t, first⟩ := exists_firstMissing (left ▸ Nat.sub_pos_of_lt early)
    have gives := mutate_of_firstMissing (gained.pools pool) first
    exact ⟨t, first, gives, afterMutating_succ_of_ok gives⟩
  · have gained := (gained_afterMutating pool n).1
    have fails := mutate_of_missing_eq_empty (gained.pools pool) (exhausted late)
    exact ⟨fails, afterMutating_succ_of_error fails⟩
  · exact (gained_afterMutating pool _).1.rest
  · exact (gained_afterMutating pool _).1.contains_iff (exhausted (Nat.le_refl _))

/-- Of a pool that lists five mutations, two of them twice and one that the character has, two
attempts succeed and the third one fails. -/
theorem claws_and_whiskers_given :
    let s : Sheet :=
      { Sheet.new "Eve" with
        traits := .ofNames ["FANGS"]
        mutationPool := .ofList
          [("lupine", ["FANGS", "CLAWS"]), ("feline", ["WHISKERS", "CLAWS", "WHISKERS"])] }
    let traits := ["WHISKERS", "CLAWS", "WHISKERS", "FANGS", "CLAWS"]
    s.Pools none traits ∧ (s.missing traits).card = 2 ∧
      (∃ t, (s.afterMutating none 1).FirstMissing traits t ∧
        (s.afterMutating none 1).mutate none = .ok ((s.afterMutating none 1).withTrait t)) ∧
      (s.afterMutating none 2).mutate none = .error (.lookup .mutation "any") ∧
      (s.afterMutating none 2).traits.contains "CLAWS" = true := by
  intro s traits
  have pool : s.Pools none traits := rfl
  have two : (s.missing traits).card = 2 := by decide
  obtain ⟨early, late, -, owned⟩ := mutation_exhausts_pool pool
  rw [two] at early late owned
  obtain ⟨t, first, gives, -⟩ := early 1 (by decide)
  exact ⟨pool, two, ⟨t, first, gives⟩, (late 2 (by decide)).1, (owned "CLAWS").2 (.inr (by decide))⟩

end Parley.Sheet
