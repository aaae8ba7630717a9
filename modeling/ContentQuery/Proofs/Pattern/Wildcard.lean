import ContentQuery.Proofs.Repository.Matching
import Mathlib.Data.List.Infix

/-!
# Wildcards

A pattern that is read from its written form is a list of wildcards, each of which stands for any
text, for any one character, or for a certain character. The anchored literals of the library are
the lists that have at most one wildcard for any text at either end.
-/

namespace ContentQuery

namespace Text

/-- A text occurs in another one if it is a part of it. -/
theorem occurs_iff (part s : List Char) : occurs part s = true ↔ part <:+: s := by
  induction s with
  | nil => simp [occurs]
  | cons c rest ih =>
    rw [occurs, Bool.or_eq_true, ih, List.isPrefixOf_iff_prefix, List.infix_cons_iff]

/-- Some ending of a text has a trait if there is such an ending. -/
theorem anyEnding_iff (trait : List Char → Bool) (s : List Char) :
    anyEnding trait s = true ↔ ∃ t, t <:+ s ∧ trait t = true := by
  induction s with
  | nil => simp [anyEnding]
  | cons c rest ih => simp [anyEnding, ih, List.suffix_cons_iff, or_and_right, exists_or]

end Text

namespace Wildcard

/-- A wildcard for any text leaves some ending to the others. -/
theorem accepts_anything (rest : List Wildcard) (s : List Char) :
    accepts (anything :: rest) s = true ↔ ∃ t, t <:+ s ∧ accepts rest t = true := by
  rw [accepts, Text.anyEnding_iff]

/-- The wildcards of a text take that text off the front. -/
theorem accepts_ofText_append (literal : List Char) (rest : List Wildcard) (s : List Char) :
    accepts (ofText literal ++ rest) s = true ↔ ∃ t, s = literal ++ t ∧ accepts rest t = true := by
  induction literal generalizing s with
  | nil => simp [ofText]
  | cons c literal ih =>
    cases s with
    | nil => simp [ofText, accepts]
    | cons d s =>
      have hstep : accepts (ofText (c :: literal) ++ rest) (d :: s) =
          (decide (c = d) && accepts (ofText literal ++ rest) s) := rfl
      rw [hstep, Bool.and_eq_true, decide_eq_true_eq, ih]
      constructor
      · intro h
        obtain ⟨rfl, t, rfl, ht⟩ := h
        exact ⟨t, rfl, ht⟩
      · intro h
        obtain ⟨t, heq, ht⟩ := h
        obtain ⟨rfl, rfl⟩ := List.cons.inj heq
        exact ⟨rfl, t, rfl, ht⟩

/-- A last wildcard for any text takes what is left. -/
theorem accepts_last_anything (s : List Char) : accepts [anything] s = true := by
  rw [accepts_anything]
  exact ⟨[], List.nil_suffix, rfl⟩

end Wildcard

namespace Pattern

/-- The wildcards of an anchored literal. -/
def wildcards (p : Pattern) : List Wildcard :=
  (if p.openStart then [Wildcard.anything] else []) ++ Wildcard.ofText p.literal.toList ++
    (if p.openEnd then [Wildcard.anything] else [])

/-- A text is accepted if the literal stands at the place that the anchors leave it. -/
theorem accepts_iff (p : Pattern) (s : List Char) :
    p.accepts s = true ↔
      ∃ before after, s = before ++ p.literal.toList ++ after ∧
        (p.openStart = false → before = []) ∧ (p.openEnd = false → after = []) := by
  obtain ⟨literal, openStart, openEnd⟩ := p
  cases openStart <;> cases openEnd
  · simp [accepts]
  · simp [accepts, List.IsPrefix, eq_comm (a := s)]
  · simp [accepts, List.IsSuffix, eq_comm (a := s)]
  · simp [accepts, Text.occurs_iff, List.IsInfix, eq_comm (a := s)]

/-- An anchored literal accepts what its wildcards stand for. -/
theorem accepts_wildcards (p : Pattern) (s : List Char) :
    Wildcard.accepts p.wildcards s = p.accepts s := by
  rw [Bool.eq_iff_iff, accepts_iff]
  obtain ⟨literal, openStart, openEnd⟩ := p
  have hend (t : List Char) : Wildcard.accepts (Wildcard.ofText literal.toList ++
      (if openEnd then [Wildcard.anything] else [])) t = true ↔
      ∃ after, t = literal.toList ++ after ∧ (openEnd = false → after = []) := by
    rw [Wildcard.accepts_ofText_append]
    cases openEnd with
    | false => simp [Wildcard.accepts]
    | true => simp [Wildcard.accepts_last_anything]
  cases openStart with
  | false =>
    simp only [wildcards, Bool.false_eq_true, if_false, List.nil_append, hend]
    simp
  | true =>
    have hstep : wildcards ⟨literal, true, openEnd⟩ = Wildcard.anything ::
        (Wildcard.ofText literal.toList ++ (if openEnd then [Wildcard.anything] else [])) := by
      simp [wildcards]
    rw [hstep, Wildcard.accepts_anything]
    constructor
    · intro h
      obtain ⟨t, ⟨before, rfl⟩, ht⟩ := h
      obtain ⟨after, rfl, hafter⟩ := (hend t).mp ht
      exact ⟨before, after, by simp, by simp, hafter⟩
    · intro h
      obtain ⟨before, after, rfl, -, hafter⟩ := h
      exact ⟨literal.toList ++ after, ⟨before, by simp⟩, (hend _).mpr ⟨after, rfl, hafter⟩⟩

end Pattern

end ContentQuery
