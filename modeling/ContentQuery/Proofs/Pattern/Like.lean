import ContentQuery.Proofs.Pattern.Wildcard

/-!
# Reading written patterns

A written pattern is read a character at a time: a sign stands for what it is a sign of, unless an
escape precedes it. A pattern is read back as the wildcards of its anchored literal, so its written
form determines the pattern, but for the end at which a pattern for any text is open.
-/

namespace ContentQuery

/-- The character that a wildcard stands for alone. -/
def Wildcard.character? : Wildcard → Option Char
  | exactly c => some c
  | _ => none

namespace Pattern

/-- The wildcards of a written pattern. An escape at the very end stands for itself. -/
def readWith (any single escape : Char) : List Char → List Wildcard
  | [] => []
  | c :: rest =>
    if c = escape then
      match rest with
      | [] => [.exactly c]
      | d :: rest => .exactly d :: readWith any single escape rest
    else if c = any then .anything :: readWith any single escape rest
    else if c = single then .single :: readWith any single escape rest
    else .exactly c :: readWith any single escape rest

/-- The sign for any text, where it is not the escape as well. -/
theorem readWith_any {any escape : Char} (single : Char) (h : any ≠ escape) (rest : List Char) :
    readWith any single escape (any :: rest) = .anything :: readWith any single escape rest := by
  cases rest <;> simp [readWith, h]

/-- A character behind an escape. -/
theorem readWith_escape (any single escape c : Char) (rest : List Char) :
    readWith any single escape (escape :: c :: rest) =
      .exactly c :: readWith any single escape rest := by
  simp [readWith]

/-- A character that is no sign. -/
theorem readWith_plain {any single escape c : Char} (h : ¬(c = any ∨ c = single ∨ c = escape))
    (rest : List Char) :
    readWith any single escape (c :: rest) = .exactly c :: readWith any single escape rest := by
  obtain ⟨hany, hsingle, hescape⟩ : c ≠ any ∧ c ≠ single ∧ c ≠ escape := by
    simpa only [not_or] using h
  cases rest <;> simp [readWith, hany, hsingle, hescape]

/-- An escaped text is read as the characters of the text. -/
theorem readWith_escaped_append (any single escape : Char) (s rest : List Char) :
    readWith any single escape (escaped any single escape s ++ rest) =
      Wildcard.ofText s ++ readWith any single escape rest := by
  induction s with
  | nil => rfl
  | cons c s ih =>
    have hof : Wildcard.ofText (c :: s) = .exactly c :: Wildcard.ofText s := rfl
    rw [escaped, hof, List.cons_append, ← ih]
    split
    · exact readWith_escape any single escape c _
    · next hsign => exact readWith_plain hsign _

/-- A pattern is read back as its wildcards, whatever the signs are. -/
theorem readWith_writeWith (any single escape : Char) (h : any ≠ escape) (p : Pattern) :
    readWith any single escape (p.writeWith any single escape).toList = p.wildcards := by
  have hend : readWith any single escape (if p.openEnd then [any] else []) =
      if p.openEnd then [.anything] else [] := by
    split
    · exact readWith_any single h []
    · rfl
  rw [writeWith, String.toList_ofList, wildcards, List.append_assoc, List.append_assoc]
  split
  · rw [List.singleton_append, readWith_any single h, readWith_escaped_append, hend,
      List.singleton_append]
  · rw [List.nil_append, readWith_escaped_append, hend, List.nil_append]

/-- The characters among the wildcards of a pattern are those of its literal. -/
theorem filterMap_wildcards (p : Pattern) :
    p.wildcards.filterMap Wildcard.character? = p.literal.toList := by
  have hof (s : List Char) : (Wildcard.ofText s).filterMap Wildcard.character? = s := by
    simp [Wildcard.ofText, List.filterMap_map, Function.comp_def, Wildcard.character?]
  rw [wildcards, List.filterMap_append, List.filterMap_append, hof]
  cases p.openStart <;> cases p.openEnd <;> simp [Wildcard.character?, List.filterMap_cons]

/-- Patterns that are written alike are the same, unless their literals are empty and only one end
of each is open. -/
theorem eq_or_of_write_eq {p q : Pattern} (h : p.write = q.write) :
    p = q ∨
      p.literal = "" ∧ q.literal = "" ∧ p.openStart = q.openEnd ∧ p.openEnd = q.openStart := by
  have hread (p : Pattern) : readWith '%' '_' '\\' p.write.toList = p.wildcards :=
    readWith_writeWith '%' '_' '\\' (by decide) p
  have hwildcards : p.wildcards = q.wildcards := by rw [← hread p, ← hread q, h]
  have hliteral : p.literal = q.literal := by
    rw [← String.toList_inj, ← filterMap_wildcards p, ← filterMap_wildcards q, hwildcards]
  obtain ⟨literal, openStart, openEnd⟩ := p
  obtain ⟨other, otherStart, otherEnd⟩ := q
  obtain rfl : literal = other := hliteral
  rw [wildcards, wildcards, Wildcard.ofText] at hwildcards
  cases hcharacters : literal.toList with
  | nil =>
    obtain rfl : literal = "" := String.toList_eq_nil_iff.mp hcharacters
    cases openStart <;> cases otherStart <;> cases openEnd <;> cases otherEnd <;> simp_all
  | cons c rest =>
    cases openStart <;> cases otherStart <;> cases openEnd <;> cases otherEnd <;> simp_all

end Pattern

end ContentQuery
