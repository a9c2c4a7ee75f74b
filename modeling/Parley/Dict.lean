/-!
# Dictionaries

Finite maps from names to values, kept in ascending order of the names and with each name once,
so that two dictionaries with the same bindings are equal (`Dict.ext_get?`). Names compare by
code points, which is also their order as bytes of UTF-8.
-/

namespace Parley

/-- A finite map from names to values, in ascending order of the names. -/
structure Dict (β : Type) where
  /-- The bindings, in ascending order of the names. -/
  entries : List (String × β)
  /-- No name occurs twice, and the names ascend. -/
  sorted : entries.Pairwise (·.1 < ·.1)

namespace Dict

variable {β γ : Type}

/-! ### Operations on sorted lists of bindings -/

/-- Bind `k` to `v` in a sorted list. -/
def insertEntry (k : String) (v : β) : List (String × β) → List (String × β)
  | [] => [(k, v)]
  | (k', v') :: rest =>
    if k < k' then (k, v) :: (k', v') :: rest
    else if k = k' then (k, v) :: rest
    else (k', v') :: insertEntry k v rest

theorem mem_insertEntry {k : String} {v : β} {l : List (String × β)} {e : String × β}
    (h : e ∈ insertEntry k v l) : e = (k, v) ∨ e ∈ l := by
  induction l with
  | nil => simpa [insertEntry] using h
  | cons head rest ih =>
    obtain ⟨k', v'⟩ := head
    simp only [insertEntry] at h
    split at h
    · simpa using h
    · split at h
      · simp only [List.mem_cons] at h ⊢
        rcases h with rfl | h
        · exact .inl rfl
        · exact .inr (.inr h)
      · simp only [List.mem_cons] at h ⊢
        rcases h with rfl | h
        · exact .inr (.inl rfl)
        · rcases ih h with rfl | h
          · exact .inl rfl
          · exact .inr (.inr h)

theorem lt_of_not_lt_of_ne {a b : String} (h : ¬a < b) (hne : a ≠ b) : b < a := by
  rcases Std.lt_trichotomy a b with h' | h' | h'
  · exact absurd h' h
  · exact absurd h' hne
  · exact h'

/-- Inserting keeps the names in ascending order. -/
theorem sorted_insertEntry (k : String) (v : β) {l : List (String × β)}
    (h : l.Pairwise (·.1 < ·.1)) : (insertEntry k v l).Pairwise (·.1 < ·.1) := by
  induction l with
  | nil => simp [insertEntry]
  | cons head rest ih =>
    obtain ⟨k', v'⟩ := head
    rw [List.pairwise_cons] at h
    simp only [insertEntry]
    split
    · rename_i hlt
      refine List.pairwise_cons.2 ⟨fun e he => ?_, List.pairwise_cons.2 h⟩
      rcases List.mem_cons.1 he with rfl | he
      · exact hlt
      · exact String.lt_trans hlt (h.1 e he)
    · rename_i hlt
      split
      · rename_i heq
        subst heq
        exact List.pairwise_cons.2 ⟨h.1, h.2⟩
      · rename_i hne
        refine List.pairwise_cons.2 ⟨fun e he => ?_, ih h.2⟩
        rcases mem_insertEntry he with rfl | he
        · exact lt_of_not_lt_of_ne hlt hne
        · exact h.1 e he

/-! ### Building -/

/-- The dictionary without bindings. -/
def empty : Dict β := ⟨[], .nil⟩

instance : Inhabited (Dict β) := ⟨empty⟩

/-- Bind `k` to `v`, in place of what it was bound to. -/
def insert (d : Dict β) (k : String) (v : β) : Dict β :=
  ⟨insertEntry k v d.entries, sorted_insertEntry k v d.sorted⟩

/-- Leave `k` unbound. -/
def erase (d : Dict β) (k : String) : Dict β :=
  ⟨d.entries.filter (·.1 ≠ k), d.sorted.filter _⟩

/-- The dictionary with the bindings of a list, of which the last for a name counts. -/
def ofList (l : List (String × β)) : Dict β :=
  l.foldl (fun d e => d.insert e.1 e.2) empty

/-! ### Looking -/

/-- What `k` is bound to. -/
def get? (d : Dict β) (k : String) : Option β := d.entries.lookup k

/-- Is `k` bound? -/
def contains (d : Dict β) (k : String) : Bool := (d.get? k).isSome

/-- The bound names, ascending. -/
def keys (d : Dict β) : List String := d.entries.map (·.1)

/-- The bound values, in ascending order of their names. -/
def values (d : Dict β) : List β := d.entries.map (·.2)

/-- The number of bindings. -/
def size (d : Dict β) : Nat := d.entries.length

/-- Are there no bindings? -/
def isEmpty (d : Dict β) : Bool := d.entries.isEmpty

/-! ### What the operations do to the bindings -/

@[simp] theorem get?_empty (k : String) : (empty : Dict β).get? k = none := rfl

theorem lookup_cons (k : String) (e : String × β) (l : List (String × β)) :
    (e :: l).lookup k = if k = e.1 then some e.2 else l.lookup k := by
  obtain ⟨k', v'⟩ := e
  by_cases hk : k = k'
  · subst hk; simp
  · have hb : (k == k') = false := by simpa using hk
    simp [List.lookup_cons, hb, hk]

/-- Inserting binds a name and leaves the others alone. -/
theorem lookup_insertEntry (k k₁ : String) (v : β) (l : List (String × β)) :
    (insertEntry k v l).lookup k₁ = if k₁ = k then some v else l.lookup k₁ := by
  induction l with
  | nil => simp [insertEntry, lookup_cons]
  | cons head rest ih =>
    obtain ⟨k', v'⟩ := head
    simp only [insertEntry]
    split
    · simp [lookup_cons]
    · split
      · rename_i heq
        subst heq
        by_cases hk : k₁ = k <;> simp [lookup_cons, hk]
      · rename_i hne
        by_cases hk' : k₁ = k'
        · subst hk'
          simp [Ne.symm hne]
        · simp [lookup_cons, hk', ih]

@[simp] theorem get?_insert (d : Dict β) (k k₁ : String) (v : β) :
    (d.insert k v).get? k₁ = if k₁ = k then some v else d.get? k₁ :=
  lookup_insertEntry k k₁ v d.entries

@[simp] theorem get?_erase (d : Dict β) (k k₁ : String) :
    (d.erase k).get? k₁ = if k₁ = k then none else d.get? k₁ := by
  obtain ⟨l, hl⟩ := d
  simp only [get?, erase]
  clear hl
  induction l with
  | nil => simp
  | cons head rest ih =>
    rw [List.filter_cons, lookup_cons]
    by_cases hk' : head.1 = k
    · rw [if_neg (by simpa using hk'), ih, hk']
      split <;> rfl
    · rw [if_pos (by simpa using hk'), lookup_cons, ih]
      by_cases hk : k₁ = k
      · subst hk
        rw [if_neg (Ne.symm hk'), if_pos rfl, if_pos rfl]
      · simp only [if_neg hk]

theorem lookup_eq_none_of_lt {k : String} {l : List (String × β)} (h : ∀ e ∈ l, k < e.1) :
    l.lookup k = none := by
  induction l with
  | nil => rfl
  | cons head rest ih =>
    have hne : k ≠ head.1 := fun e => String.lt_irrefl _ (e ▸ h head (.head _))
    rw [lookup_cons, if_neg hne]
    exact ih fun e he => h e (.tail _ he)

/-- Sorted lists of bindings with the same look-ups are the same. -/
theorem ext_lookup {l m : List (String × β)} (hl : l.Pairwise (·.1 < ·.1))
    (hm : m.Pairwise (·.1 < ·.1)) (h : ∀ k, l.lookup k = m.lookup k) : l = m := by
  induction l generalizing m with
  | nil =>
    cases m with
    | nil => rfl
    | cons e _ => simpa [lookup_cons] using h e.1
  | cons a l ih =>
    cases m with
    | nil => simpa [lookup_cons] using h a.1
    | cons b m =>
      rw [List.pairwise_cons] at hl hm
      have key : a.1 = b.1 := by
        rcases Std.lt_trichotomy a.1 b.1 with hlt | heq | hlt
        · have := h a.1
          rw [lookup_eq_none_of_lt (l := b :: m)] at this
          · simp [lookup_cons] at this
          · intro e he
            rcases List.mem_cons.1 he with rfl | he
            · exact hlt
            · exact String.lt_trans hlt (hm.1 e he)
        · exact heq
        · have := h b.1
          rw [lookup_eq_none_of_lt (l := a :: l)] at this
          · simp [lookup_cons] at this
          · intro e he
            rcases List.mem_cons.1 he with rfl | he
            · exact hlt
            · exact String.lt_trans hlt (hl.1 e he)
      obtain ⟨ka, va⟩ := a
      obtain ⟨kb, vb⟩ := b
      simp only at key
      subst key
      have hv : va = vb := by simpa [lookup_cons] using h ka
      subst hv
      congr 1
      refine ih hl.2 hm.2 fun k => ?_
      by_cases hk : k = ka
      · subst hk
        rw [lookup_eq_none_of_lt hl.1, lookup_eq_none_of_lt hm.1]
      · simpa [lookup_cons, hk] using h k

/-- Dictionaries with the same bindings are equal. -/
theorem ext_get? {d e : Dict β} (h : ∀ k, d.get? k = e.get? k) : d = e := by
  obtain ⟨l, hl⟩ := d
  obtain ⟨m, hm⟩ := e
  have : l = m := ext_lookup hl hm h
  subst this
  rfl

/-- Binding a name to what it is bound to already changes nothing. -/
theorem insert_of_get? {d : Dict β} {k : String} {v : β} (h : d.get? k = some v) :
    d.insert k v = d := by
  refine ext_get? fun k₁ => ?_
  rw [get?_insert]
  split
  · rename_i heq
    rw [heq, h]
  · rfl

/-- In a sorted list a name is bound to what stands beside it. -/
theorem lookup_eq_some_iff {k : String} {v : β} {l : List (String × β)}
    (hl : l.Pairwise (·.1 < ·.1)) : l.lookup k = some v ↔ (k, v) ∈ l := by
  induction l with
  | nil => simp
  | cons head rest ih =>
    obtain ⟨k', v'⟩ := head
    rw [List.pairwise_cons] at hl
    rw [lookup_cons, List.mem_cons, ← ih hl.2]
    by_cases hk : k = k'
    · subst hk
      rw [lookup_eq_none_of_lt hl.1]
      simp [eq_comm]
    · simp [hk]

/-- The bindings are those that looking finds. -/
theorem get?_eq_some_iff {d : Dict β} {k : String} {v : β} :
    d.get? k = some v ↔ (k, v) ∈ d.entries := lookup_eq_some_iff d.sorted

theorem mem_keys {d : Dict β} {k : String} : k ∈ d.keys ↔ ∃ v, d.get? k = some v := by
  simp only [keys, List.mem_map, Prod.exists, get?_eq_some_iff]
  constructor
  · rintro ⟨_, v, h, rfl⟩
    exact ⟨v, h⟩
  · rintro ⟨v, h⟩
    exact ⟨k, v, h, rfl⟩

/-- A name is there if it is bound. -/
theorem contains_iff {d : Dict β} {k : String} : d.contains k = true ↔ ∃ v, d.get? k = some v :=
  Option.isSome_iff_exists

theorem contains_insert {d : Dict β} {k k₁ : String} {v : β} :
    (d.insert k v).contains k₁ = true ↔ k₁ = k ∨ d.contains k₁ = true := by
  unfold contains
  rw [get?_insert]
  split <;> simp [*]

theorem contains_erase {d : Dict β} {k k₁ : String} :
    (d.erase k).contains k₁ = true ↔ k₁ ≠ k ∧ d.contains k₁ = true := by
  unfold contains
  rw [get?_erase]
  split <;> simp [*]

theorem contains_foldl_insert {l : List (String × β)} {d : Dict β} {k : String} :
    (l.foldl (fun d e => d.insert e.1 e.2) d).contains k = true ↔
      (∃ e ∈ l, k = e.1) ∨ d.contains k = true := by
  induction l generalizing d with
  | nil => simp
  | cons e l ih =>
    rw [List.foldl_cons, ih, contains_insert]
    simp only [List.mem_cons, exists_eq_or_imp]
    rw [or_left_comm, or_assoc]

instance [DecidableEq β] : DecidableEq (Dict β) := fun d e =>
  if h : d.entries = e.entries then
    .isTrue (by cases d; cases e; simp_all)
  else .isFalse fun he => h (he ▸ rfl)

end Dict

/-! ### Sets of names -/

/-- A finite set of names. -/
abbrev NameSet : Type := Dict Unit

namespace NameSet

/-- The set with one name more. -/
def add (s : NameSet) (name : String) : NameSet := s.insert name ()

/-- The set of the names in a list. -/
def ofNames (l : List String) : NameSet := Dict.ofList (l.map (·, ()))

/-- A set has the names that it was made of. -/
theorem mem_keys_ofNames {l : List String} {name : String} :
    name ∈ (ofNames l).keys ↔ name ∈ l := by
  rw [Dict.mem_keys, ← Dict.contains_iff, ofNames, Dict.ofList, Dict.contains_foldl_insert]
  simp [Dict.contains]

end NameSet

end Parley
