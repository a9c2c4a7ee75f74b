import Parley.Proofs.Attempts

/-!
# Stores

A variable of a scope that has a store holds what was written to it last. Writing it changes no
other variable of the store, and none of the other stores; and what was written before makes no
difference to what is left behind.
-/

namespace Parley

namespace Dict

variable {β : Type}

/-- The dictionary with a name bound anew, or not bound any more. -/
def rebind (d : Dict β) (name : String) : Option β → Dict β
  | some value => d.insert name value
  | none => d.erase name

/-- Binding a name concerns that name only. -/
theorem get?_rebind (d : Dict β) (name other : String) (value : Option β) :
    (d.rebind name value).get? other = if other = name then value else d.get? other := by
  cases value with
  | none => exact get?_erase d name other
  | some value => exact get?_insert d name other value

/-- Of two bindings of a name the later one counts. -/
theorem rebind_rebind (d : Dict β) (name : String) (value value' : Option β) :
    (d.rebind name value).rebind name value' = d.rebind name value' := by
  apply ext_get?
  intro other
  simp only [get?_rebind]
  split <;> rfl

end Dict

namespace Actor

variable {α : Type} [Actor α] [memory : Actor.InMemory α]

/-- An actor kept in memory holds what was written last, and all else that it held before. -/
theorem value?_write (a : α) (name other : String) (value : Option String) :
    value? (write a name value) other = if other = name then value else value? a other := by
  cases memory <;> cases value with
  | none => exact Dict.get?_erase ..
  | some text => exact Dict.get?_insert ..

theorem write_write (a : α) (name : String) (value value' : Option String) :
    write (write a name value) name value' = write a name value' := by
  cases memory with
  | player =>
    have written (p : Player) (value : Option String) : write p name value =
        { p with sheet := { p.sheet with vars := p.sheet.vars.rebind name value } } := by
      cases value <;> rfl
    simp only [written, Dict.rebind_rebind]
  | npc =>
    have written (n : Npc) (value : Option String) : write n name value =
        { n with sheet := { n.sheet with vars := n.sheet.vars.rebind name value } } := by
      cases value <;> rfl
    simp only [written, Dict.rebind_rebind]

end Actor

namespace Scene

variable {α β : Type} [Actor α] [Actor β] {s s' s'' : Scene α β} {var : Variable}
  {value value' : Option String}

/-- A variable can be read if its scope has a store. -/
theorem exists_read_iff (s : Scene α β) :
    (∃ value, s.read var = .ok value) ↔ var.scope.isSupported = true := by
  unfold read
  cases var.scope with
  | global | u | npc => exact iff_of_true ⟨_, rfl⟩ rfl
  | faction | party => exact iff_of_false nofun nofun

theorem exists_write_iff (s : Scene α β) (value : Option String) :
    (∃ s', s.write var value = .ok s') ↔ var.scope.isSupported = true := by
  unfold write
  cases var.scope with
  | global | u | npc => exact iff_of_true ⟨_, rfl⟩ rfl
  | faction | party => exact iff_of_false nofun nofun

/-- A global variable is written beside all actors. -/
theorem write_global (s : Scene α β) (name : String) (value : Option String) :
    s.write ⟨.global, name⟩ value = .ok { s with globals := s.globals.rebind name value } := by
  cases value <;> rfl

variable [Actor.InMemory α] [Actor.InMemory β]

/-- After a variable was written, it holds what was written, and every other variable what it held
before. -/
theorem read_of_write (h : s.write var value = .ok s') (other : Variable) :
    s'.read other = if other = var then .ok value else s.read other := by
  obtain ⟨scope, name⟩ := var
  obtain ⟨scope', name'⟩ := other
  by_cases same : scope' = scope
  · subst same
    simp only [Variable.mk.injEq, true_and]
    cases scope' with
    | global =>
      rw [write_global] at h
      cases h
      exact (congrArg Except.ok (Dict.get?_rebind ..)).trans (apply_ite ..)
    | u =>
      cases h
      exact (congrArg Except.ok (Actor.value?_write ..)).trans (apply_ite ..)
    | npc =>
      cases h
      exact (congrArg Except.ok (Actor.value?_write ..)).trans (apply_ite ..)
    | faction | party => cases h
  · have apart : (⟨scope', name'⟩ : Variable) ≠ ⟨scope, name⟩ := by simp [same]
    rw [if_neg apart]
    -- Each scope has a store of its own.
    cases scope <;> cases scope' <;> first | contradiction | (cases h; rfl)

/-- What is written to a global variable, or to one of an actor kept in memory, is there. -/
theorem read_write (h : s.write var value = .ok s') : s'.read var = .ok value :=
  (read_of_write h var).trans (if_pos rfl)

/-- Of two texts that are written to a variable one after the other only the second one counts. -/
theorem write_write (h : s.write var value = .ok s') (h' : s'.write var value' = .ok s'') :
    s.write var value' = .ok s'' := by
  obtain ⟨scope, name⟩ := var
  cases scope with
  | global =>
    rw [write_global] at h h' ⊢
    cases h
    rw [← h', Dict.rebind_rebind]
  | u =>
    cases h
    cases h'
    exact congrArg (fun u => Except.ok { s with u }) (Actor.write_write s.u name value value').symm
  | npc =>
    cases h
    cases h'
    exact congrArg (fun npc => Except.ok { s with npc })
      (Actor.write_write s.npc name value value').symm
  | faction | party => cases h

end Scene

end Parley
