import ContentQuery.Proofs.Criterion.Meaning
import ContentQuery.Proofs.Pattern.Like
import ContentQuery.Proofs.Repository.Engine

/-!
# Patterns mean the same everywhere

A pattern is written into statements with signs, and it becomes a regular expression for a store.
What a written pattern stands for is said by a relation that knows nothing of literals. Both find a
literal at the place that the mode asks for, whatever the literal holds.
-/

namespace ContentQuery

namespace Wildcard

/-- A wildcard for one character takes it off the front. -/
theorem accepts_single (rest : List Wildcard) (s : List Char) :
    accepts (single :: rest) s = true ↔ ∃ c t, s = c :: t ∧ accepts rest t = true := by
  cases s <;> simp [accepts]

/-- A wildcard for a certain character takes that one off the front. -/
theorem accepts_exactly (c : Char) (rest : List Wildcard) (s : List Char) :
    accepts (exactly c :: rest) s = true ↔ ∃ t, s = c :: t ∧ accepts rest t = true := by
  cases s with
  | nil => simp [accepts]
  | cons d t => simp [accepts, eq_comm (a := c)]

end Wildcard

namespace Pattern

/-- What a written pattern stands for: its signs stand for any text and for any one character, an
escape takes its meaning from the character behind it, and any other character stands for itself. -/
inductive Like (any single escape : Char) : List Char → List Char → Prop
  | nil : Like any single escape [] []
  | any (before : List Char) {p s : List Char} (h : Like any single escape p s) :
    Like any single escape (any :: p) (before ++ s)
  | single (c : Char) {p s : List Char} (h : Like any single escape p s) :
    Like any single escape (single :: p) (c :: s)
  | escaped (c : Char) {p s : List Char} (h : Like any single escape p s) :
    Like any single escape (escape :: c :: p) (c :: s)
  /-- An escape with nothing behind it is a character like others. -/
  | last : Like any single escape [escape] [escape]
  | plain {c : Char} (hplain : ¬(c = any ∨ c = single ∨ c = escape)) {p s : List Char}
    (h : Like any single escape p s) : Like any single escape (c :: p) (c :: s)

/-- If the signs are different, a written pattern stands for what the wildcards that are read from
it accept. -/
theorem like_iff_accepts {any single escape : Char} (hsigns : [any, single, escape].Nodup)
    (p s : List Char) :
    Like any single escape p s ↔ Wildcard.accepts (readWith any single escape p) s = true := by
  obtain ⟨hsingle, hescape, hother⟩ : any ≠ single ∧ any ≠ escape ∧ single ≠ escape := by
    simpa [and_assoc] using hsigns
  have readWith_single (rest : List Char) : readWith any single escape (single :: rest) =
      .single :: readWith any single escape rest := by
    cases rest <;> simp [readWith, hsingle.symm, hother]
  constructor
  · intro h
    induction h with
    | nil => rfl
    | any before _ ih =>
      rw [readWith_any single hescape, Wildcard.accepts_anything]
      exact ⟨_, List.suffix_append before _, ih⟩
    | single c _ ih =>
      rw [readWith_single, Wildcard.accepts_single]
      exact ⟨c, _, rfl, ih⟩
    | escaped c _ ih =>
      rw [readWith_escape, Wildcard.accepts_exactly]
      exact ⟨_, rfl, ih⟩
    | last => simp [readWith, Wildcard.accepts]
    | plain hplain _ ih =>
      rw [readWith_plain hplain, Wildcard.accepts_exactly]
      exact ⟨_, rfl, ih⟩
  · intro h
    induction p using readWith.induct any single escape generalizing s with
    | case1 =>
      obtain rfl : s = [] := by simpa [readWith, Wildcard.accepts] using h
      exact .nil
    | case2 =>
      obtain rfl : s = [escape] := by
        simpa [readWith, Wildcard.accepts_exactly, Wildcard.accepts] using h
      exact .last
    | case3 c rest ih =>
      rw [readWith_escape, Wildcard.accepts_exactly] at h
      obtain ⟨t, rfl, h⟩ := h
      exact .escaped c (ih t h)
    | case4 rest _ ih =>
      rw [readWith_any single hescape, Wildcard.accepts_anything] at h
      obtain ⟨t, ⟨before, rfl⟩, h⟩ := h
      exact .any before (ih t h)
    | case5 rest _ _ ih =>
      rw [readWith_single, Wildcard.accepts_single] at h
      obtain ⟨c, t, rfl, h⟩ := h
      exact .single c (ih t h)
    | case6 c rest hne hany hone ih =>
      have hplain : ¬(c = any ∨ c = single ∨ c = escape) := by simp [hne, hany, hone]
      rw [readWith_plain hplain, Wildcard.accepts_exactly] at h
      obtain ⟨t, rfl, h⟩ := h
      exact .plain hplain (ih t h)

/-- What a literal is found in, whichever way it is matched. For any three different signs its
written pattern, in particular with the signs of statements, stands for the texts that have the
literal at the place that the mode asks for. A lawful engine that compiles its regular expression
finds it in these texts, and the pattern itself accepts them. -/
theorem matches_alike {engine : ExpressionEngine} (h : engine.Lawful) (mode : MatchMode)
    (literal text : String) {any single escape : Char} (hsigns : [any, single, escape].Nodup) :
    (Like any single escape ((mode.pattern literal).writeWith any single escape).toList
      text.toList ↔ mode.Finds literal.toList text.toList) ∧
    (Like '%' '_' '\\' (mode.pattern literal).write.toList text.toList ↔
      mode.Finds literal.toList text.toList) ∧
    ((mode.pattern literal).HasExpression engine →
      ∃ compiled, (mode.pattern literal).expression engine = .ok compiled ∧
        (engine.accepts compiled text = true ↔ mode.Finds literal.toList text.toList)) ∧
    ((mode.pattern literal).accepts text.toList = true ↔
      mode.Finds literal.toList text.toList) := by
  have hstore := mode.accepts_pattern literal text.toList
  have hwritten {any single escape : Char} (hsigns : [any, single, escape].Nodup) :
      Like any single escape ((mode.pattern literal).writeWith any single escape).toList
        text.toList ↔ mode.Finds literal.toList text.toList := by
    have hescape : any ≠ escape := by
      rintro rfl
      simp at hsigns
    rw [like_iff_accepts hsigns, readWith_writeWith any single escape hescape, accepts_wildcards,
      hstore]
  refine ⟨hwritten hsigns, hwritten (by decide), fun hcompiles => ?_, hstore⟩
  obtain ⟨compiled, hcompile⟩ := hcompiles
  exact ⟨compiled, hcompile, by rw [accepts_expression h hcompile, hstore]⟩

/-- A literal with every sign in it and an escape at its end, found in the middle of a text, also by
the plain engine, and not in one that has other characters for the signs. -/
theorem matches_alike_signs : PlainEngine.engine.Lawful ∧ ['*', '?', '\\'].Nodup ∧
    Like '*' '?' '\\' "*5\\*\\?\\\\*".toList "15*?\\".toList ∧
    ¬ Like '*' '?' '\\' "*5\\*\\?\\\\*".toList "15ab\\".toList ∧
    Like '%' '_' '\\' "%5*?\\\\%".toList "15*?\\".toList ∧
    ∃ compiled, (MatchMode.anywhere.pattern "5*?\\").expression PlainEngine.engine = .ok compiled ∧
      PlainEngine.engine.accepts compiled "15*?\\" = true := by
  have hfinds (text : String) := matches_alike PlainEngine.lawful .anywhere "5*?\\" text
    (show ['*', '?', '\\'].Nodup by decide)
  have hin : MatchMode.Finds .anywhere "5*?\\".toList "15*?\\".toList := ⟨['1'], [], rfl⟩
  obtain ⟨hsigns, hstatement, hengine, -⟩ := hfinds "15*?\\"
  obtain ⟨compiled, hcompile, hfound⟩ := hengine (PlainEngine.hasExpression _)
  refine ⟨PlainEngine.lawful, by decide, hsigns.mpr hin, fun hlike => ?_, hstatement.mpr hin,
    compiled, hcompile, hfound.mpr hin⟩
  have hnot := (hfinds "15ab\\").2.2.2.mpr ((hfinds "15ab\\").1.mp hlike)
  exact absurd hnot (by decide)

end Pattern

end ContentQuery
