import ContentQuery.Proofs.Criterion.Atoms
import ContentQuery.Proofs.Criterion.Built

/-!
# Operands

The values that a criterion compares with. Reduction adds none: what remains of a criterion
compares with values of the criterion only.
-/

namespace ContentQuery

/-- A value that is no date, or a date of whole milliseconds. -/
def Value.IsWhole : Value → Prop
  | .date t => t.IsWhole
  | _ => True

/-- Some comparison in the predicate has this operand. -/
inductive Predicate.HasOperand : Predicate → Value → Prop
  | compare (p : Property) (op : Comparator) (v : Value) : HasOperand (.compare p op v) v
  | not {inner : Predicate} {v : Value} (h : HasOperand inner v) : HasOperand (.not inner) v
  | junction (k : Connective) {parts : List Predicate} {p : Predicate} {v : Value} (hp : p ∈ parts)
    (h : HasOperand p v) : HasOperand (.junction k parts) v

/-- Some comparison in the criterion has this operand, or some range has this bound. -/
inductive Criterion.HasOperand : Criterion → Value → Prop
  | comparison (p : Property) (op : Comparator) (v : Value) : HasOperand (.comparison p op v) v
  | lower (p : Property) (l u : Value) : HasOperand (.range p l u) l
  | upper (p : Property) (l u : Value) : HasOperand (.range p l u) u
  | not {inner : Criterion} {v : Value} (h : HasOperand inner v) : HasOperand (.not inner) v
  | junction (k : Connective) {clauses : List Criterion} {c : Criterion} {v : Value}
    (hc : c ∈ clauses) (h : HasOperand c v) : HasOperand (.junction k clauses) v

/-- The operand of a comparison among the atoms of a predicate is one of the predicate. -/
theorem Predicate.HasOperand.of_mem_atoms {p : Predicate} {property : Property} {op : Comparator}
    {v : Value} (h : .compare property op v ∈ p.atoms) : p.HasOperand v := by
  induction p with
  | compare q o w =>
    obtain ⟨_, _, _⟩ := List.mem_singleton.mp h
    exact .compare property op v
  | like | contains | presence | descendantOf => cases List.mem_singleton.mp h
  | not inner ih => exact .not (ih h)
  | junction k parts ih =>
    rw [atoms, atomsOfAll_eq] at h
    obtain ⟨p, hp, h⟩ := List.mem_flatMap.mp h
    exact .junction k hp (ih p hp h)

/-- An operand of a predicate is that of a comparison among its atoms. -/
theorem Predicate.HasOperand.exists_mem_atoms {p : Predicate} {v : Value} (h : p.HasOperand v) :
    ∃ property op, .compare property op v ∈ p.atoms := by
  induction h with
  | compare p op v => exact ⟨p, op, List.mem_singleton_self _⟩
  | not _ ih => exact ih
  | junction k hp _ ih =>
    obtain ⟨property, op, hmem⟩ := ih
    rw [atoms, atomsOfAll_eq]
    exact ⟨property, op, List.mem_flatMap.mpr ⟨_, hp, hmem⟩⟩

namespace Reduced

/-- The operands of what remains; constants have none. -/
def HasOperand (r : Reduced) (v : Value) : Prop := ∃ p, r = predicate p ∧ p.HasOperand v

/-- The operand of a comparison among the atoms of what remains is one of it. -/
theorem HasOperand.of_mem_atoms {r : Reduced} {property : Property} {op : Comparator} {v : Value}
    (h : .compare property op v ∈ r.atoms) : r.HasOperand v := by
  cases r with
  | predicate p => exact ⟨p, rfl, .of_mem_atoms h⟩
  | always | never => cases h

end Reduced

/-- The operand of a comparison among the atoms that a criterion is read with is one of it. -/
theorem Criterion.HasOperand.of_mem_atoms {c : Criterion} {property : Property} {op : Comparator}
    {v : Value} (h : .compare property op v ∈ c.atoms) : c.HasOperand v := by
  induction c with
  | comparison q o w =>
    obtain ⟨_, _, _⟩ := List.mem_singleton.mp h
    exact .comparison property op v
  | range q l u =>
    rcases List.mem_cons.mp h with h | h
    · obtain ⟨_, _, _⟩ := h
      exact .lower property v u
    · obtain ⟨_, _, _⟩ := List.mem_singleton.mp h
      exact .upper property l v
  | patternMatch | presence | anyOf | containment | descendantOf => simp [atoms] at h
  | not inner ih => exact .not (ih h)
  | junction k clauses ih =>
    rw [atoms, atomsOfAll_eq] at h
    obtain ⟨c, hc, h⟩ := List.mem_flatMap.mp h
    exact .junction k hc (ih c hc h)

/-- Reduction adds no operand. -/
theorem Criterion.HasOperand.of_reduce {c : Criterion} {v : Value} (h : c.reduce.HasOperand v) :
    c.HasOperand v := by
  obtain ⟨p, hp, h⟩ := h
  obtain ⟨property, op, hmem⟩ := h.exists_mem_atoms
  have hsublist := c.atoms_reduce_sublist
  rw [hp] at hsublist
  exact .of_mem_atoms (hsublist.mem hmem)

end ContentQuery
