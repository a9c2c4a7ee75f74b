import Parley.Topic.Line

/-!
# Joined lines

The texts of lines in a row are joined by single spaces, and the empty ones are left out. Because
they are left out, the empty text is neutral to joining, and it makes no difference how lines are
grouped: a concatenation within another one may be replaced by its parts, at any depth, whatever the
conditions in it come to and draw.
-/

namespace Parley.Line

/-- Two texts with a space between them, unless one of them is empty. -/
def spaced (left right : String) : String :=
  if left = "" then right else if right = "" then left else left ++ " " ++ right

/-- Texts that are not empty do not vanish when they are joined. -/
theorem intercalate_ne_empty {texts : List String} (nonempty : texts ≠ [])
    (filled : ∀ text ∈ texts, text ≠ "") : " ".intercalate texts ≠ "" := by
  cases texts with
  | nil => contradiction
  | cons first rest =>
    have begins : first ≠ "" := filled first List.mem_cons_self
    cases rest with
    | nil => rwa [String.intercalate_singleton]
    | cons second rest =>
      rw [String.intercalate_cons_cons]
      simp only [ne_eq, String.append_eq_empty_iff, not_and]
      exact fun empty => absurd empty.1 begins

/-- What is joined can be joined in two parts. -/
theorem join_append (xs ys : List (Option String)) :
    join (xs ++ ys) = spaced (join xs) (join ys) := by
  unfold join spaced
  rw [List.filterMap_append, List.filter_append]
  have filled (texts : List String) : ∀ text ∈ texts.filter (· ≠ ""), text ≠ "" := by simp
  have left := filled (xs.filterMap id)
  have right := filled (ys.filterMap id)
  generalize (xs.filterMap id).filter (· ≠ "") = xs at left ⊢
  generalize (ys.filterMap id).filter (· ≠ "") = ys at right ⊢
  by_cases hx : xs = []
  · rw [hx, List.nil_append, if_pos String.intercalate_nil]
  · rw [if_neg (intercalate_ne_empty hx left)]
    by_cases hy : ys = []
    · rw [hy, List.append_nil, if_pos String.intercalate_nil]
    · rw [if_neg (intercalate_ne_empty hy right), String.intercalate_append_of_ne_nil hx hy]

theorem join_singleton (text : String) : join [some text] = text := by
  unfold join
  by_cases h : text = ""
  · subst h; rfl
  · simp [h]

section

variable {α β : Type} [Actor α] [Actor β] (s : Scene α β)

theorem renderAll_eq_mapM (lines : List Line) : renderAll s lines = lines.mapM (render s) := by
  induction lines with
  | nil => rfl
  | cons line rest ih => rw [renderAll, ih, List.mapM_cons]

/-- The text to which lines in a row are joined. -/
def joined (lines : List Line) : StateM Generator String := join <$> renderAll s lines

/-- A concatenation is rendered as the texts of its parts, joined. -/
theorem render_concat (parts : List Line) : (concat parts).render s = some <$> joined s parts := by
  rw [render, joined, Functor.map_map]
  rfl

/-- Joining may be interrupted anywhere. -/
theorem joined_append (xs ys : List Line) : joined s (xs ++ ys) = (do
    let left ← joined s xs
    let right ← joined s ys
    return spaced left right) := by
  simp only [joined, renderAll_eq_mapM, List.mapM_append, map_bind, map_pure, bind_map_left,
    join_append]

theorem joined_cons (line : Line) (rest : List Line) : joined s (line :: rest) = (do
    let left ← joined s [line]
    let right ← joined s rest
    return spaced left right) := joined_append s [line] rest

/-- A concatenation stands for its parts. -/
theorem joined_concat (parts : List Line) : joined s [concat parts] = joined s parts := by
  simp only [joined, renderAll, render, pure_bind, bind_assoc, map_bind, map_pure, join_singleton]
  exact (map_eq_pure_bind _ _).symm

end

mutual

/-- The lines of which a line is made if concatenations are taken apart at every depth. -/
def members : Line → List Line
  | .concat parts => membersAll parts
  | line => [line]

/-- The lines of which lines are made. -/
def membersAll : List Line → List Line
  | [] => []
  | line :: rest => line.members ++ membersAll rest

end

section

variable {α β : Type} [Actor α] [Actor β] (s : Scene α β)

mutual

/-- Taking a nested concatenation apart does not change what is joined. -/
theorem joined_members : ∀ line : Line, joined s line.members = joined s [line]
  | .concat parts => by
    rw [members, joined_membersAll parts, joined_concat]
  | .fixed _ | .conditional .. | .cascade .. => rfl

theorem joined_membersAll : ∀ lines : List Line, joined s (membersAll lines) = joined s lines
  | [] => rfl
  | line :: rest => by
    rw [membersAll, joined_append, joined_members line, joined_membersAll rest, ← joined_cons]

end

/-- A concatenation within a concatenation may be replaced by its parts: the same text is rendered
and the same numbers are drawn. So may all concatenations within it, at every depth. A concatenation
always comes to a text, which is what its parts come to in their order, one after the other, with
single spaces between those that are not empty. -/
theorem concatenations_flatten :
    (∀ xs ys zs : List Line,
      (concat (xs ++ [concat ys] ++ zs)).render s = (concat (xs ++ ys ++ zs)).render s) ∧
    (∀ parts : List Line, (concat (membersAll parts)).render s = (concat parts).render s) ∧
    ∀ parts : List Line, (concat parts).render s = (do
      let texts ← parts.mapM (render s)
      return some (" ".intercalate ((texts.filterMap id).filter (· ≠ "")))) := by
  refine ⟨fun xs ys zs => ?_, fun parts => ?_, fun parts => ?_⟩
  · simp only [render_concat, joined_append, joined_concat]
  · rw [render_concat, render_concat, joined_membersAll]
  · rw [render, renderAll_eq_mapM]
    rfl

end

/-- Neither an empty text nor one that is missing leaves a space behind. -/
example : join [some "Hi.", some "", none, some (join [none, some ""]), some "Because."] =
    "Hi. Because." := by decide

end Parley.Line
