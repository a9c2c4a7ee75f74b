import Mathlib.Data.List.Infix
import Parley.Text.Basic

/-!
# Tags in texts

A tag is a name between angle brackets. Two tags in a text never overlap, so that how often a tag
stands in a text adds up over the parts of the text, apart from the tags that are broken in two
between them.

A table of tags is put into a text in one pass by `fill`, which looks at the text alone, and in
one pass for each tag by `replaceEach`, where a later pass also looks at what the earlier ones
have inserted. Both come to the same where the passes expand no more tags than the text is written
with, and this is so for every text just when no inserted value can take part in a tag whose turn
comes later.
-/

namespace Parley.Text

/-- A tag: a name to be put between angle brackets, without any of its own. -/
structure Tag where
  name : List Char
  opening : '<' ∉ name
  closing : '>' ∉ name
  deriving DecidableEq

namespace Tag

variable {t t' : Tag} {x y v : List Char} {c : Char} {i : Nat}

/-- The tag as it stands in a text. -/
def chars (t : Tag) : List Char := '<' :: (t.name ++ ['>'])

theorem chars_ne_nil : t.chars ≠ [] := List.cons_ne_nil _ _

/-- A proper beginning of a tag is its opening bracket and part of its name. -/
theorem take_chars (pos : 0 < i) (less : i < t.chars.length) :
    t.chars.take i = '<' :: t.name.take (i - 1) := by
  obtain ⟨i, rfl⟩ := Nat.exists_eq_succ_of_ne_zero pos.ne'
  have bound : i ≤ t.name.length := by
    simp only [chars, List.length_cons, List.length_append, List.length_nil] at less
    omega
  rw [chars, List.take_succ_cons, List.take_append_of_le_length bound]
  rfl

theorem drop_chars (pos : 0 < i) (less : i < t.chars.length) :
    t.chars.drop i = t.name.drop (i - 1) ++ ['>'] := by
  obtain ⟨i, rfl⟩ := Nat.exists_eq_succ_of_ne_zero pos.ne'
  have bound : i ≤ t.name.length := by
    simp only [chars, List.length_cons, List.length_append, List.length_nil] at less
    omega
  rw [chars, List.drop_succ_cons, List.drop_append_of_le_length bound]
  rfl

/-- A proper beginning of a tag does not close it. -/
theorem closing_notMem_take (pos : 0 < i) (less : i < t.chars.length) :
    '>' ∉ t.chars.take i := by
  rw [take_chars pos less, List.mem_cons, not_or]
  exact ⟨by decide, mt List.mem_of_mem_take t.closing⟩

theorem opening_notMem_drop (pos : 0 < i) (less : i < t.chars.length) :
    '<' ∉ t.chars.drop i := by
  rw [drop_chars pos less, List.mem_append, not_or]
  exact ⟨mt List.mem_of_mem_drop t.opening, by decide⟩

/-- A text that begins with a tag begins with no other one. -/
theorem prefix_chars_append : t'.chars <+: t.chars ++ y ↔ t' = t := by
  refine ⟨fun ⟨z, eq⟩ => ?_, fun same => same ▸ List.prefix_append _ _⟩
  have eq : t'.name ++ '>' :: z = t.name ++ '>' :: y := by simpa [chars] using eq
  have names : t'.name = t.name := by
    rcases List.append_eq_append_iff.1 eq with ⟨l, name, rest⟩ | ⟨l, name, rest⟩
    · cases l with
      | nil => simpa using name.symm
      | cons c l =>
        obtain ⟨rfl, -⟩ := List.cons.inj rest
        exact absurd (name ▸ List.mem_append_right _ List.mem_cons_self) t.closing
    · cases l with
      | nil => simpa using name
      | cons c l =>
        obtain ⟨rfl, -⟩ := List.cons.inj rest
        exact absurd (name ▸ List.mem_append_right _ List.mem_cons_self) t'.closing
  cases t; cases t'; simp_all

/-! ### How often a tag stands in a text -/

/-- How often the tag stands in a text. -/
def occurrences (t : Tag) : List Char → Nat
  | [] => 0
  | c :: rest => (if t.chars <+: c :: rest then 1 else 0) + t.occurrences rest

/-- The tag begins in the one text and goes on into the other. -/
def Straddles (t : Tag) (x y : List Char) : Prop :=
  ∃ i < t.chars.length, 0 < i ∧ t.chars.take i <:+ x ∧ t.chars.drop i <+: y

theorem Straddles.append_left {l : List Char} (h : t.Straddles x y) : t.Straddles (l ++ x) y := by
  obtain ⟨i, less, pos, before, after⟩ := h
  exact ⟨i, less, pos, before.trans (List.suffix_append l x), after⟩

theorem not_straddles_nil : ¬t.Straddles [] y := by
  rintro ⟨i, -, pos, before, -⟩
  rcases List.take_eq_nil_iff.1 (List.suffix_nil.1 before) with zero | nil
  · exact pos.ne' zero
  · exact chars_ne_nil nil

/-- No tag goes on across an opening bracket. -/
theorem not_straddles_opening : ¬t.Straddles x ('<' :: y) := by
  rintro ⟨i, less, pos, -, after⟩
  rcases List.prefix_cons_iff.1 after with nil | ⟨l, eq, -⟩
  · exact Nat.not_le.2 less (List.drop_eq_nil_iff.1 nil)
  · exact opening_notMem_drop pos less (eq ▸ List.mem_cons_self)

/-- No tag goes on across a closing bracket. -/
theorem not_straddles_closing : ¬t.Straddles (x ++ ['>']) y := by
  rintro ⟨i, less, pos, before, -⟩
  rcases List.suffix_concat_iff.1 before with nil | ⟨l, eq, -⟩
  · rcases List.take_eq_nil_iff.1 nil with zero | nil
    · exact pos.ne' zero
    · exact chars_ne_nil nil
  · exact closing_notMem_take pos less (eq ▸ List.mem_append_right _ List.mem_cons_self)

/-- A tag that straddles begins with the first character or further on. -/
theorem straddles_cons :
    t.Straddles (c :: x) y ↔
      (t.chars <+: c :: (x ++ y) ∧ ¬t.chars <+: c :: x) ∨ t.Straddles x y := by
  constructor
  · rintro ⟨i, less, pos, before, after⟩
    rcases List.suffix_cons_iff.1 before with eq | before
    · refine .inl ⟨?_, fun within => ?_⟩
      · rw [← List.take_append_drop i t.chars, eq]
        exact (List.prefix_append_right_inj (c :: x)).2 after
      · have short := within.length_le
        rw [← eq, List.length_take] at short
        omega
    · exact .inr ⟨i, less, pos, before, after⟩
  · rintro (⟨across, not_within⟩ | ⟨i, less, pos, before, after⟩)
    · have begins : c :: x <+: t.chars := by
        have own : c :: x <+: c :: (x ++ y) := List.prefix_append (c :: x) y
        rcases List.prefix_or_prefix_of_prefix across own with within | begins
        · exact absurd within not_within
        · exact begins
      obtain ⟨l, eq⟩ := begins
      have more : l ≠ [] := fun nil => not_within (by simp [← eq, nil])
      refine ⟨(c :: x).length, ?_, Nat.succ_pos _, ?_, ?_⟩
      · rw [← eq, List.length_append]
        exact Nat.lt_add_of_pos_right (List.length_pos_iff.2 more)
      · rw [← eq, List.take_left]
      · rw [← eq, List.drop_left]
        exact (List.prefix_append_right_inj (c :: x)).1 (eq ▸ across)
    · exact ⟨i, less, pos, before.trans (List.suffix_cons c x), after⟩

theorem prefix_cons_append (h : t.chars <+: c :: x) : t.chars <+: c :: (x ++ y) :=
  h.trans (List.prefix_append (c :: x) y)

theorem occurrences_cons_eq_zero :
    t.occurrences (c :: x) = 0 ↔ ¬t.chars <+: c :: x ∧ t.occurrences x = 0 := by
  rw [occurrences, Nat.add_eq_zero_iff]
  simp

/-- Joining texts breaks no tag. -/
theorem occurrences_append_le : t.occurrences x + t.occurrences y ≤ t.occurrences (x ++ y) := by
  induction x with
  | nil => simp [occurrences]
  | cons c x ih =>
    have first : (if t.chars <+: c :: x then 1 else 0) ≤
        if t.chars <+: c :: (x ++ y) then 1 else 0 := by
      split
      · next within => rw [if_pos (prefix_cons_append within)]
      · exact Nat.zero_le _
    simp only [List.cons_append, occurrences]
    omega

/-- The tags of two parts of a text are all of its tags just when none straddles. -/
theorem occurrences_append_iff :
    t.occurrences (x ++ y) = t.occurrences x + t.occurrences y ↔ ¬t.Straddles x y := by
  induction x with
  | nil => simp [occurrences, not_straddles_nil]
  | cons c x ih =>
    have rest := occurrences_append_le (t := t) (x := x) (y := y)
    rw [straddles_cons, not_or, ← ih]
    simp only [List.cons_append, occurrences]
    by_cases within : t.chars <+: c :: x
    · simp only [within, prefix_cons_append within, if_true, not_true, and_false,
        not_false_eq_true, true_and]
      omega
    · by_cases across : t.chars <+: c :: (x ++ y)
      · simp only [within, across, if_true, if_false, not_false_eq_true, and_self, not_true,
          false_and, iff_false]
        omega
      · simp only [within, across, if_false, false_and, not_false_eq_true, true_and]
        omega

/-- Joining texts makes no tag unless one straddles the seam. -/
theorem occurrences_append (h : ¬t.Straddles x y) :
    t.occurrences (x ++ y) = t.occurrences x + t.occurrences y := occurrences_append_iff.2 h

/-- Without an opening bracket there is no tag. -/
theorem occurrences_of_opening_notMem (h : '<' ∉ x) : t.occurrences x = 0 := by
  induction x with
  | nil => rfl
  | cons c x ih =>
    refine occurrences_cons_eq_zero.2 ⟨fun begins => ?_, ih (mt (List.mem_cons_of_mem _) h)⟩
    exact h (begins.subset List.mem_cons_self)

theorem occurrences_of_closing_notMem (h : '>' ∉ x) : t.occurrences x = 0 := by
  induction x with
  | nil => rfl
  | cons c x ih =>
    refine occurrences_cons_eq_zero.2 ⟨fun begins => ?_, ih (mt (List.mem_cons_of_mem _) h)⟩
    exact h (begins.subset (by simp [chars]))

/-- A tag holds itself once, and no other. -/
theorem occurrences_chars : t'.occurrences t.chars = if t' = t then 1 else 0 := by
  have first : t'.chars <+: '<' :: (t.name ++ ['>']) ↔ t' = t := by
    rw [← prefix_chars_append (y := []), List.append_nil]
    rfl
  have rest : t'.occurrences (t.name ++ ['>']) = 0 :=
    occurrences_of_opening_notMem (by simp [t.opening])
  rw [chars, occurrences, rest, Nat.add_zero]
  simp only [first]

/-- No tag is broken in two by another one. -/
theorem occurrences_append_chars :
    t'.occurrences (x ++ (t.chars ++ y)) =
      t'.occurrences x + ((if t' = t then 1 else 0) + t'.occurrences y) := by
  have before : ¬t'.Straddles x (t.chars ++ y) := not_straddles_opening
  have after : ¬t'.Straddles t.chars y := not_straddles_closing (x := '<' :: t.name)
  rw [occurrences_append before, occurrences_append after, occurrences_chars]

/-- A tag that occurs has a first occurrence. -/
theorem exists_first (h : t.occurrences x ≠ 0) :
    ∃ y z, x = y ++ (t.chars ++ z) ∧ t.occurrences y = 0 := by
  induction x with
  | nil => exact absurd rfl h
  | cons c x ih =>
    by_cases here : t.chars <+: c :: x
    · obtain ⟨z, eq⟩ := here
      exact ⟨[], z, eq.symm, rfl⟩
    · rw [occurrences, if_neg here, Nat.zero_add] at h
      obtain ⟨y, z, rfl, absent⟩ := ih h
      exact ⟨c :: y, z, rfl, occurrences_cons_eq_zero.2 ⟨mt prefix_cons_append here, absent⟩⟩

/-- A text without the tag, or one in which a text without the tag, the tag and a shorter text
follow each other. -/
theorem text_induction (t : Tag) {P : List Char → Prop} (absent : ∀ x, t.occurrences x = 0 → P x)
    (tagged : ∀ x y, t.occurrences x = 0 → P y → P (x ++ (t.chars ++ y))) (text : List Char) :
    P text := by
  by_cases free : t.occurrences text = 0
  · exact absent text free
  · obtain ⟨x, y, eq, first⟩ := exists_first free
    have shorter : y.length < text.length := by
      simp only [eq, chars, List.length_append, List.length_cons]
      omega
    exact eq ▸ tagged x y first (text_induction t absent tagged y)
termination_by text.length

/-! ### Values that take part in no tag -/

/-- A value that takes part in no tag `t`, whatever text it is inserted in: it does not have the
tag in it, and where the tag is broken in two it does not end with the first part, begin with the
second one or lie at the beginning of the second one. -/
structure Inert (t : Tag) (v : List Char) : Prop where
  absent : t.occurrences v = 0
  apart : ∀ i < t.chars.length, 0 < i →
    ¬t.chars.take i <:+ v ∧ ¬t.chars.drop i <+: v ∧ ¬v <+: t.chars.drop i

instance (t : Tag) (v : List Char) : Decidable (t.Inert v) :=
  decidable_of_iff (t.occurrences v = 0 ∧ ∀ i < t.chars.length, 0 < i →
      ¬t.chars.take i <:+ v ∧ ¬t.chars.drop i <+: v ∧ ¬v <+: t.chars.drop i)
    ⟨fun ⟨absent, apart⟩ => ⟨absent, apart⟩, fun ⟨absent, apart⟩ => ⟨absent, apart⟩⟩

namespace Inert

theorem not_straddles_left (h : t.Inert v) : ¬t.Straddles x (v ++ y) := by
  rintro ⟨i, less, pos, -, after⟩
  obtain ⟨-, second, inside⟩ := h.apart i less pos
  exact (List.prefix_or_prefix_of_prefix after (List.prefix_append v y)).elim second inside

theorem not_straddles_right (h : t.Inert v) : ¬t.Straddles v y := by
  rintro ⟨i, less, pos, before, -⟩
  exact (h.apart i less pos).1 before

/-- A text with the value inserted has the tags of its two parts and no others. -/
theorem occurrences_insert (h : t.Inert v) :
    t.occurrences (x ++ (v ++ y)) = t.occurrences x + t.occurrences y := by
  rw [occurrences_append h.not_straddles_left, occurrences_append h.not_straddles_right, h.absent,
    Nat.zero_add]

/-- A value without angle brackets that is no part of the tag's name is inert. -/
theorem of_plain (opening : '<' ∉ v) (closing : '>' ∉ v) (h : ¬v <:+: t.name) : t.Inert v := by
  refine ⟨occurrences_of_opening_notMem opening, fun i less pos => ⟨?_, ?_, ?_⟩⟩
  · rw [take_chars pos less]
    exact fun before => opening (before.subset List.mem_cons_self)
  · rw [drop_chars pos less]
    exact fun after => closing (after.subset (List.mem_append_right _ List.mem_cons_self))
  · rw [drop_chars pos less, List.prefix_concat_iff]
    rintro (eq | within)
    · exact closing (eq ▸ List.mem_append_right _ List.mem_cons_self)
    · exact h (within.isInfix.trans (List.drop_suffix _ _).isInfix)

/-- A value that completes no tag, where none is closed before it and none is opened after it. -/
theorem of_completes_none
    (h : ∀ x y, '>' ∉ x → '<' ∉ y → t.occurrences (x ++ (v ++ y)) = 0) : t.Inert v := by
  have completed {x y l m : List Char} (before : '>' ∉ x) (after : '<' ∉ y)
      (eq : x ++ (v ++ y) = l ++ (t.chars ++ m)) : False := by
    have none := h x y before after
    rw [eq, occurrences_append_chars, if_pos rfl] at none
    omega
  refine ⟨by simpa using h [] [] List.not_mem_nil List.not_mem_nil, fun i less pos => ?_⟩
  have opened := closing_notMem_take pos less
  have closed := opening_notMem_drop pos less
  have whole := List.take_append_drop i t.chars
  refine ⟨?_, ?_, ?_⟩
  · rintro ⟨l, eq⟩
    refine completed (l := l) (m := []) List.not_mem_nil closed ?_
    rw [← eq, List.nil_append, List.append_assoc, whole, List.append_nil]
  · rintro ⟨m, eq⟩
    refine completed (l := []) (m := m) opened List.not_mem_nil ?_
    rw [← eq, List.append_nil, ← List.append_assoc, whole, List.nil_append]
  · rintro ⟨m, eq⟩
    refine completed (l := []) (m := []) opened (fun mem => closed ?_) (y := m) ?_
    · exact eq ▸ List.mem_append_right _ mem
    · rw [eq, whole, List.nil_append, List.append_nil]

end Inert

end Tag

/-! ### One pass -/

/-- A tag, and the value that is inserted for it. -/
structure Insertion where
  tag : Tag
  value : List Char

variable {table later : List Insertion} {e : Insertion}
  {c : Char} {x y text : List Char}

/-- Fill in a text of which the first `skip` characters belong to a tag that has been filled in
already. -/
def fillFrom (table : List Insertion) : Nat → List Char → List Char
  | _, [] => []
  | skip + 1, _ :: rest => fillFrom table skip rest
  | 0, c :: rest =>
    match table.find? fun e => e.tag.chars.isPrefixOf (c :: rest) with
    | some e => e.value ++ fillFrom table (e.tag.chars.length - 1) rest
    | none => c :: fillFrom table 0 rest

/-- The text with the tags of the table replaced by their values in one pass, which looks at the
text from left to right and at none of the values. -/
def fill (table : List Insertion) (text : List Char) : List Char := fillFrom table 0 text

/-- To replace a tag is to fill in a table of that tag alone. -/
theorem replaceFrom_eq_fillFrom (skip : Nat) :
    replaceFrom e.tag.chars e.value skip text = fillFrom [e] skip text := by
  induction text generalizing skip with
  | nil => simp [replaceFrom, fillFrom]
  | cons c rest ih =>
    cases skip with
    | succ skip => simp [replaceFrom, fillFrom, ih]
    | zero => by_cases here : e.tag.chars.isPrefixOf (c :: rest) <;>
        simp [replaceFrom, fillFrom, here, ih]

theorem fillFrom_eq_fill (skip : Nat) : fillFrom table skip text = fill table (text.drop skip) := by
  induction text generalizing skip with
  | nil => simp [fill, fillFrom]
  | cons c rest ih =>
    cases skip with
    | succ skip => rw [fillFrom, ih, List.drop_succ_cons]
    | zero => rfl

theorem find?_chars (t : Tag) :
    (table.find? fun e => e.tag.chars.isPrefixOf (t.chars ++ y)) =
      table.find? fun e => decide (e.tag = t) := by
  congr 1
  funext e
  rw [Bool.eq_iff_iff, List.isPrefixOf_iff_prefix, Tag.prefix_chars_append, decide_eq_true_eq]

/-- A tag of the table is filled in. -/
theorem fill_chars {t : Tag} (h : table.find? (fun e => decide (e.tag = t)) = some e) :
    fill table (t.chars ++ y) = e.value ++ fill table y := by
  have same : e.tag = t := by simpa using List.find?_some h
  rw [← find?_chars (y := y)] at h
  have drop : (t.name ++ ['>'] ++ y).drop (e.tag.chars.length - 1) = y := by
    rw [same]
    exact List.drop_left
  rw [Tag.chars, List.cons_append] at h ⊢
  rw [fill, fillFrom, h]
  change e.value ++ fillFrom table _ _ = _
  rw [fillFrom_eq_fill, drop]

theorem fill_cons (h : ∀ e ∈ table, ¬e.tag.chars <+: c :: x) :
    fill table (c :: x) = c :: fill table x := by
  have none : (table.find? fun e => e.tag.chars.isPrefixOf (c :: x)) = none := by
    simpa [List.find?_eq_none] using h
  rw [fill, fillFrom, none]
  rfl

/-- Two parts of a text can be filled in apart from each other, where no tag straddles. -/
theorem fill_append {x : List Char} (h : ∀ e ∈ table, ¬e.tag.Straddles x y) :
    fill table (x ++ y) = fill table x ++ fill table y := by
  match x with
  | [] => rfl
  | c :: x =>
    by_cases found : ∃ e ∈ table, e.tag.chars <+: c :: x
    · obtain ⟨e, mem, z, eq⟩ := found
      have shorter : z.length < x.length + 1 := by
        rw [← List.length_cons, ← eq, List.length_append]
        exact Nat.lt_add_of_pos_left (List.length_pos_iff.2 Tag.chars_ne_nil)
      obtain ⟨first, is_first⟩ : ∃ d, table.find? (fun d => decide (d.tag = e.tag)) = some d :=
        Option.isSome_iff_exists.1 (List.find?_isSome.2 ⟨e, mem, decide_eq_true rfl⟩)
      have apart : ∀ e ∈ table, ¬e.tag.Straddles z y := fun d mem straddles =>
        h d mem (eq ▸ straddles.append_left)
      rw [← eq, List.append_assoc, fill_chars is_first, fill_chars is_first, fill_append apart,
        List.append_assoc]
    · have within : ∀ e ∈ table, ¬e.tag.chars <+: c :: x := fun e mem begins =>
        found ⟨e, mem, begins⟩
      have across : ∀ e ∈ table, ¬e.tag.chars <+: c :: (x ++ y) := fun e mem begins =>
        h e mem (Tag.straddles_cons.2 (.inl ⟨begins, within e mem⟩))
      have apart : ∀ e ∈ table, ¬e.tag.Straddles x y := fun e mem straddles =>
        h e mem (straddles.append_left (l := [c]))
      rw [List.cons_append, fill_cons across, fill_cons within, fill_append apart,
        List.cons_append]
termination_by x.length

/-- A text without tags is kept. -/
theorem fill_eq_self (h : ∀ e ∈ table, e.tag.occurrences x = 0) : fill table x = x := by
  induction x with
  | nil => rfl
  | cons c x ih =>
    have absent e mem := Tag.occurrences_cons_eq_zero.1 (h e mem)
    rw [fill_cons fun e mem => (absent e mem).1, ih fun e mem => (absent e mem).2]

/-- A tag that does not stand in the text is as good as not in the table. -/
theorem fill_cons_of_absent (h : e.tag.occurrences x = 0) : fill (e :: later) x = fill later x := by
  suffices from_any : ∀ skip, fillFrom (e :: later) skip x = fillFrom later skip x from from_any 0
  induction x with
  | nil => simp [fillFrom]
  | cons c x ih =>
    obtain ⟨other, absent⟩ := Tag.occurrences_cons_eq_zero.1 h
    rintro (- | skip)
    · have other : e.tag.chars.isPrefixOf (c :: x) = false := by
        simpa [← List.isPrefixOf_iff_prefix] using other
      simp only [fillFrom, List.find?_cons, other, ih absent]
    · simp only [fillFrom, ih absent]

/-! ### A pass for each tag -/

/-- The text with the tag of the insertion replaced by its value. -/
def Insertion.pass (e : Insertion) (text : List Char) : List Char :=
  replaceFrom e.tag.chars e.value 0 text

namespace Insertion

theorem pass_eq_fill : e.pass text = fill [e] text := replaceFrom_eq_fillFrom 0

/-- A pass changes nothing where its tag does not occur. -/
theorem pass_of_absent (h : e.tag.occurrences x = 0) : e.pass x = x := by
  rw [pass_eq_fill, fill_eq_self (by simpa using h)]

/-- A pass fills in the first occurrence of its tag and goes on behind it. -/
theorem pass_tagged (h : e.tag.occurrences x = 0) :
    e.pass (x ++ (e.tag.chars ++ y)) = x ++ (e.value ++ e.pass y) := by
  have before : ¬e.tag.Straddles x (e.tag.chars ++ y) := Tag.not_straddles_opening
  rw [pass_eq_fill, fill_append (by simpa using before), fill_eq_self (by simpa using h),
    fill_chars (e := e) (by simp), pass_eq_fill]

variable {t : Tag}

/-- A pass leaves every other tag in the text. -/
theorem occurrences_le_pass (other : t ≠ e.tag) :
    t.occurrences text ≤ t.occurrences (e.pass text) := by
  induction text using Tag.text_induction e.tag with
  | absent x absent => rw [pass_of_absent absent]
  | tagged x y absent ih =>
    calc t.occurrences (x ++ (e.tag.chars ++ y))
        = t.occurrences x + t.occurrences y := by
          rw [Tag.occurrences_append_chars, if_neg other, Nat.zero_add]
      _ ≤ t.occurrences x + (t.occurrences e.value + t.occurrences (e.pass y)) := by omega
      _ ≤ t.occurrences x + t.occurrences (e.value ++ e.pass y) :=
          Nat.add_le_add_left Tag.occurrences_append_le _
      _ ≤ t.occurrences (x ++ (e.value ++ e.pass y)) := Tag.occurrences_append_le
      _ = t.occurrences (e.pass (x ++ (e.tag.chars ++ y))) := by rw [pass_tagged absent]

/-- A pass that inserts an inert value brings no other tag into the text. -/
theorem occurrences_pass_of_inert (other : t ≠ e.tag) (inert : t.Inert e.value) :
    t.occurrences (e.pass text) = t.occurrences text := by
  induction text using Tag.text_induction e.tag with
  | absent x absent => rw [pass_of_absent absent]
  | tagged x y absent ih =>
    rw [pass_tagged absent, inert.occurrences_insert, ih, Tag.occurrences_append_chars,
      if_neg other, Nat.zero_add]

/-- A pass that brings no later tag into the text can be made together with the later ones. -/
theorem fill_pass (other : ∀ d ∈ later, d.tag ≠ e.tag)
    (same : ∀ d ∈ later, d.tag.occurrences (e.pass text) = d.tag.occurrences text) :
    fill later (e.pass text) = fill (e :: later) text := by
  induction text using Tag.text_induction e.tag with
  | absent x absent => rw [pass_of_absent absent, fill_cons_of_absent absent]
  | tagged x y absent ih =>
    rw [pass_tagged absent] at same ⊢
    -- A tag that were inserted, or completed by an insertion, would be one too many.
    have counted : ∀ d ∈ later, d.tag.occurrences e.value = 0 ∧
        d.tag.occurrences (e.pass y) = d.tag.occurrences y ∧
        ¬d.tag.Straddles x (e.value ++ e.pass y) ∧ ¬d.tag.Straddles e.value (e.pass y) := by
      intro d mem
      have same := same d mem
      rw [Tag.occurrences_append_chars, if_neg (other d mem), Nat.zero_add] at same
      have outer := Tag.occurrences_append_le (t := d.tag) (x := x) (y := e.value ++ e.pass y)
      have inner := Tag.occurrences_append_le (t := d.tag) (x := e.value) (y := e.pass y)
      have kept : d.tag.occurrences y ≤ d.tag.occurrences (e.pass y) :=
        occurrences_le_pass (other d mem)
      rw [← Tag.occurrences_append_iff, ← Tag.occurrences_append_iff]
      omega
    have before : ∀ d ∈ e :: later, ¬d.tag.Straddles x (e.tag.chars ++ y) := fun _ _ =>
      Tag.not_straddles_opening
    calc fill later (x ++ (e.value ++ e.pass y))
        = fill later x ++ (fill later e.value ++ fill later (e.pass y)) := by
          rw [fill_append fun d mem => (counted d mem).2.2.1,
            fill_append fun d mem => (counted d mem).2.2.2]
      _ = fill (e :: later) x ++ (e.value ++ fill (e :: later) y) := by
          rw [fill_cons_of_absent absent, fill_eq_self fun d mem => (counted d mem).1,
            ih fun d mem => (counted d mem).2.1]
      _ = fill (e :: later) (x ++ (e.tag.chars ++ y)) := by
          rw [fill_append before, fill_chars (e := e) (by simp)]

end Insertion

/-- The text with the tags of the table replaced by their values, one tag after another. -/
def replaceEach : List Insertion → List Char → List Char
  | [], text => text
  | e :: later, text => replaceEach later (e.pass text)

/-- How many tags of the table the text is written with. -/
def written : List Insertion → List Char → Nat
  | [], _ => 0
  | e :: later, text => e.tag.occurrences text + written later text

/-- How many tags give way to their values when they are replaced one after another. -/
def expanded : List Insertion → List Char → Nat
  | [], _ => 0
  | e :: later, text => e.tag.occurrences text + expanded later (e.pass text)

/-- The tags of the table are different from each other. -/
def Distinct (table : List Insertion) : Prop := table.Pairwise fun e d => d.tag ≠ e.tag

theorem written_le_written (h : ∀ d ∈ table, d.tag.occurrences x ≤ d.tag.occurrences y) :
    written table x ≤ written table y := by
  induction table with
  | nil => exact Nat.le_refl _
  | cons e later ih =>
    obtain ⟨first, rest⟩ := List.forall_mem_cons.1 h
    exact Nat.add_le_add first (ih rest)

/-- The written tags are all there exactly where their number is. -/
theorem written_eq_written_iff (h : ∀ d ∈ table, d.tag.occurrences x ≤ d.tag.occurrences y) :
    written table y = written table x ↔
      ∀ d ∈ table, d.tag.occurrences y = d.tag.occurrences x := by
  induction table with
  | nil => simp [written]
  | cons e later ih =>
    obtain ⟨first, rest⟩ := List.forall_mem_cons.1 h
    have fewer := written_le_written rest
    rw [List.forall_mem_cons, ← ih rest, written, written]
    omega

/-- The passes fill in at least the tags that were written. -/
theorem written_le_expanded (distinct : Distinct table) :
    written table text ≤ expanded table text := by
  induction table generalizing text with
  | nil => exact Nat.le_refl _
  | cons e later ih =>
    obtain ⟨other, distinct⟩ := List.pairwise_cons.1 distinct
    have kept : written later text ≤ written later (e.pass text) := written_le_written fun d mem =>
      Insertion.occurrences_le_pass (other d mem)
    exact Nat.add_le_add_left (kept.trans (ih distinct)) _

/-- The passes expand no more than what is written just when the first one brings no later tag
into the text, and the later ones expand no more than what it leaves. -/
theorem expanded_cons_eq_written_iff (distinct : Distinct (e :: later)) :
    expanded (e :: later) text = written (e :: later) text ↔
      (∀ d ∈ later, d.tag.occurrences (e.pass text) = d.tag.occurrences text) ∧
        expanded later (e.pass text) = written later (e.pass text) := by
  obtain ⟨other, distinct⟩ := List.pairwise_cons.1 distinct
  have kept : ∀ d ∈ later, d.tag.occurrences text ≤ d.tag.occurrences (e.pass text) := fun d mem =>
    Insertion.occurrences_le_pass (other d mem)
  have more := written_le_written kept
  have most : written later (e.pass text) ≤ expanded later (e.pass text) :=
    written_le_expanded distinct
  rw [← written_eq_written_iff kept, expanded, written]
  omega

/-- Passes that expand no more tags than the text is written with come to one pass. -/
theorem replaceEach_eq_fill (distinct : Distinct table)
    (tight : expanded table text = written table text) :
    replaceEach table text = fill table text := by
  induction table generalizing text with
  | nil => exact (fill_eq_self (by simp)).symm
  | cons e later ih =>
    obtain ⟨same, tight⟩ := (expanded_cons_eq_written_iff distinct).1 tight
    obtain ⟨other, distinct⟩ := List.pairwise_cons.1 distinct
    rw [replaceEach, ih distinct tight, Insertion.fill_pass other same]

/-- Values that take part in no tag leave just the tags that were written. -/
theorem expanded_eq_written_of_inert (distinct : Distinct table)
    (inert : table.Pairwise fun e d => d.tag.Inert e.value) :
    expanded table text = written table text := by
  induction table generalizing text with
  | nil => rfl
  | cons e later ih =>
    obtain ⟨first, inert⟩ := List.pairwise_cons.1 inert
    obtain ⟨other, rest⟩ := List.pairwise_cons.1 distinct
    exact (expanded_cons_eq_written_iff distinct).2
      ⟨fun d mem => Insertion.occurrences_pass_of_inert (other d mem) (first d mem), ih rest inert⟩

/-- Where the passes expand no more than is written in any text without the tags `past`, every
value is inert for the tags that come after its own. -/
theorem inert_of_expanded_eq_written (past : List Tag) (distinct : Distinct table)
    (fresh : ∀ e ∈ table, e.tag ∉ past)
    (tight : ∀ text, (∀ t ∈ past, t.occurrences text = 0) →
      expanded table text = written table text) :
    table.Pairwise fun e d => d.tag.Inert e.value := by
  induction table generalizing past with
  | nil => exact .nil
  | cons e later ih =>
    obtain ⟨other, rest⟩ := List.pairwise_cons.1 distinct
    obtain ⟨new, fresh⟩ := List.forall_mem_cons.1 fresh
    refine List.pairwise_cons.2 ⟨fun d mem => .of_completes_none fun x y unclosed unopened => ?_,
      ih (e.tag :: past) rest (fun d mem => ?_) fun text absent => ?_⟩
    · -- In the text `x ++ e.tag.chars ++ y` there is the tag of `e` and no other one.
      have around (t : Tag) : t.occurrences x = 0 ∧ t.occurrences y = 0 :=
        ⟨Tag.occurrences_of_closing_notMem unclosed, Tag.occurrences_of_opening_notMem unopened⟩
      have alone (t : Tag) (ne : t ≠ e.tag) : t.occurrences (x ++ (e.tag.chars ++ y)) = 0 := by
        rw [Tag.occurrences_append_chars, if_neg ne, (around t).1, (around t).2]
      obtain ⟨same, -⟩ := (expanded_cons_eq_written_iff distinct).1
        (tight _ fun t mem => alone t (ne_of_mem_of_not_mem mem new))
      have same := same d mem
      rwa [Insertion.pass_tagged (around e.tag).1, Insertion.pass_of_absent (around e.tag).2,
        alone d.tag (other d mem)] at same
    · exact mt List.mem_cons.1 (not_or.2 ⟨other d mem, fresh d mem⟩)
    · obtain ⟨absent, rest⟩ := List.forall_mem_cons.1 absent
      have tight := ((expanded_cons_eq_written_iff distinct).1 (tight text rest)).2
      rwa [Insertion.pass_of_absent absent] at tight

/-- The passes expand in every text just the tags that it is written with, just when no inserted
value takes part in a tag whose turn comes later. -/
theorem expanded_eq_written_iff_inert (distinct : Distinct table) :
    (∀ text, expanded table text = written table text) ↔
      table.Pairwise fun e d => d.tag.Inert e.value := by
  refine ⟨fun tight => ?_, fun inert _ => expanded_eq_written_of_inert distinct inert⟩
  exact inert_of_expanded_eq_written [] distinct (fun _ _ => List.not_mem_nil)
    fun text _ => tight text

end Parley.Text
