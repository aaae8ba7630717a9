import ContentQuery.Proofs.Error
import ContentQuery.Proofs.Pattern.Like
import ContentQuery.Repository.Platform

/-!
# What is asked of an engine

Patterns become anchored expressions whose parts are either any text or an escaped literal. An
engine is lawful if it finds those that it compiles in the texts that they spell. It need not
compile them all: it may have no room for a long one. The plain engine is lawful, and it compiles
every pattern.
-/

namespace ContentQuery

/-- One part of an anchored expression. -/
inductive Fragment where
  /-- Any text. -/
  | anything
  /-- This text alone. -/
  | literal (s : String)

namespace Fragment

/-- The source of some parts. -/
def source (escape : String → String) : List Fragment → String
  | [] => ""
  | anything :: rest => ".*" ++ source escape rest
  | literal s :: rest => escape s ++ source escape rest

/-- Whether a text is made of the parts, in order. -/
def Spells : List Fragment → List Char → Prop
  | [], t => t = []
  | anything :: rest, t => ∃ before after, t = before ++ after ∧ Spells rest after
  | literal s :: rest, t => ∃ after, t = s.toList ++ after ∧ Spells rest after

end Fragment

/-- An engine that finds the anchored expressions of escaped literals and of parts for any text,
where it compiles them, in the texts that they spell. There is nothing to escape in the empty
text. -/
structure ExpressionEngine.Lawful (engine : ExpressionEngine) : Prop where
  escape_empty : engine.escape "" = ""
  anchored : ∀ (parts : List Fragment) {compiled : engine.Compiled},
    engine.compile ("(?s)^" ++ Fragment.source engine.escape parts ++ "$") = .ok compiled →
      ∀ t : String, engine.accepts compiled t = true ↔ Fragment.Spells parts t.toList

namespace Pattern

/-- The parts of the expression for a pattern. -/
def fragments (p : Pattern) : List Fragment :=
  (if p.openStart then [Fragment.anything] else []) ++ Fragment.literal p.literal ::
    (if p.openEnd then [Fragment.anything] else [])

/-- The source of the expression for a pattern is that of its parts between two anchors. -/
theorem source_eq (escape : String → String) (p : Pattern) :
    p.source escape = "(?s)^" ++ Fragment.source escape p.fragments ++ "$" := by
  obtain ⟨literal, openStart, openEnd⟩ := p
  cases openStart <;> cases openEnd <;>
    simp [-String.reduceAppend, source, fragments, Fragment.source, String.append_assoc]

/-- The parts of a pattern spell the texts that it accepts. -/
theorem spells_fragments (p : Pattern) (s : List Char) :
    Fragment.Spells p.fragments s ↔ p.accepts s = true := by
  rw [accepts_iff]
  obtain ⟨literal, openStart, openEnd⟩ := p
  cases openStart <;> cases openEnd <;> simp [fragments, Fragment.Spells]

/-- Under a lawful engine the expression of a pattern is found in the texts that the pattern
accepts. -/
theorem accepts_expression {engine : ExpressionEngine} (h : engine.Lawful) {p : Pattern}
    {compiled : engine.Compiled} (hcompile : p.expression engine = .ok compiled) (t : String) :
    engine.accepts compiled t = p.accepts t.toList := by
  have hsource : engine.compile ("(?s)^" ++ Fragment.source engine.escape p.fragments ++ "$") =
      .ok compiled := by
    rw [← source_eq]
    rw [expression] at hcompile
    cases hresult : engine.compile (p.source engine.escape) with
    | error why => simp [hresult] at hcompile
    | ok found => simpa [hresult] using hcompile
  rw [Bool.eq_iff_iff, h.anchored p.fragments hsource, spells_fragments]

/-- An engine compiles the expression for a pattern. -/
def HasExpression (engine : ExpressionEngine) (p : Pattern) : Prop :=
  ∃ compiled, p.expression engine = .ok compiled

/-- The refusal of a pattern is an internal error. -/
theorem exists_internal_of_expression {engine : ExpressionEngine} {p : Pattern} {e : Error}
    (h : p.expression engine = .error e) : ∃ why, e = .internal why := by
  rw [expression] at h
  cases hresult : engine.compile (p.source engine.escape) with
  | ok compiled => simp [hresult] at h
  | error why =>
    rw [hresult] at h
    exact ⟨_, (Except.error.inj h).symm⟩

/-- Under a lawful engine patterns that are written alike are compiled alike or refused alike. -/
theorem expression_eq_of_write_eq {engine : ExpressionEngine} (h : engine.Lawful) {p q : Pattern}
    (hwrite : p.write = q.write) : p.expression engine = q.expression engine := by
  obtain rfl | ⟨hp, hq, hstart, hend⟩ := eq_or_of_write_eq hwrite
  · rfl
  -- With nothing to find in the middle it does not matter which end is open.
  · have hsource : p.source engine.escape = q.source engine.escape := by
      rw [source, source, hp, hq, h.escape_empty, hstart, hend]
      cases q.openStart <;> cases q.openEnd <;> rfl
    rw [expression, expression, hsource, hwrite]

end Pattern

namespace PlainEngine

/-- An escaped text is read as the characters of the text. -/
theorem read?_escape_append (s rest : List Char) :
    read? (escape s ++ rest) = (read? rest).map (Wildcard.ofText s ++ ·) := by
  induction s with
  | nil => simp [escape, Wildcard.ofText]
  | cons c s ih =>
    have hof (ws : List Wildcard) :
        Wildcard.ofText (c :: s) ++ ws = .exactly c :: (Wildcard.ofText s ++ ws) := rfl
    simp only [hof, escape]
    split
    · next h =>
      rw [List.cons_append, List.cons_append, read?.eq_3, if_pos h, ih, Option.map_map]
      rfl
    · next h =>
      have hplain : read? (c :: (escape s ++ rest)) =
          (read? (escape s ++ rest)).map (.exactly c :: ·) := by
        have hne (d : Char) (hd : special.contains d = true) : c ≠ d := by
          intro heq
          exact h (heq ▸ hd)
        rw [read?.eq_4 _ _ (fun _ heq => absurd heq (hne '.' rfl))
          (fun _ _ heq => absurd heq (hne '\\' rfl)), if_neg (hne '$' rfl), if_neg h]
      rw [List.cons_append, hplain, ih, Option.map_map]
      rfl

/-- The wildcards of the parts of an expression. -/
def wildcards : List Fragment → List Wildcard
  | [] => []
  | .anything :: rest => .anything :: wildcards rest
  | .literal s :: rest => Wildcard.ofText s.toList ++ wildcards rest

/-- The plain engine reads the parts of an expression as their wildcards. -/
theorem read?_source (parts : List Fragment) :
    read? ((Fragment.source engine.escape parts).toList ++ ['$']) = some (wildcards parts) := by
  induction parts with
  | nil => rfl
  | cons part rest ih =>
    cases part with
    | anything =>
      have hstep : (Fragment.source engine.escape (.anything :: rest)).toList ++ ['$'] =
          '.' :: '*' :: ((Fragment.source engine.escape rest).toList ++ ['$']) := by
        simp [Fragment.source]
      rw [hstep, read?, ih]
      rfl
    | literal s =>
      have hstep : (Fragment.source engine.escape (.literal s :: rest)).toList ++ ['$'] =
          escape s.toList ++ ((Fragment.source engine.escape rest).toList ++ ['$']) := by
        simp [Fragment.source, engine]
      rw [hstep, read?_escape_append, ih]
      rfl

/-- The wildcards of the parts of an expression stand for the texts that the parts spell. -/
theorem accepts_wildcards (parts : List Fragment) (t : List Char) :
    Wildcard.accepts (wildcards parts) t = true ↔ Fragment.Spells parts t := by
  induction parts generalizing t with
  | nil => simp [wildcards, Wildcard.accepts, Fragment.Spells]
  | cons part rest ih =>
    cases part with
    | anything =>
      rw [wildcards, Wildcard.accepts_anything, Fragment.Spells]
      constructor
      · intro h
        obtain ⟨after, ⟨before, rfl⟩, h⟩ := h
        exact ⟨before, after, rfl, (ih after).mp h⟩
      · intro h
        obtain ⟨before, after, rfl, h⟩ := h
        exact ⟨after, ⟨before, rfl⟩, (ih after).mpr h⟩
    | literal s => simp only [wildcards, Wildcard.accepts_ofText_append, Fragment.Spells, ih]

/-- The plain engine compiles the parts of an expression to their wildcards. -/
theorem compile_source (parts : List Fragment) :
    engine.compile ("(?s)^" ++ Fragment.source engine.escape parts ++ "$") =
      .ok (wildcards parts) := by
  have hstart : Text.afterStart? "(?s)^".toList
      ("(?s)^" ++ Fragment.source engine.escape parts ++ "$").toList =
      some ((Fragment.source engine.escape parts).toList ++ ['$']) := by
    simp [Text.afterStart?]
  change compile _ = _
  simp only [compile, hstart, Option.bind_some, read?_source]
  rfl

/-- The plain engine is lawful. -/
theorem lawful : engine.Lawful where
  escape_empty := rfl
  anchored parts compiled hcompile t := by
    rw [compile_source] at hcompile
    obtain rfl := Except.ok.inj hcompile
    exact accepts_wildcards parts t.toList

/-- The plain engine compiles every pattern. -/
theorem hasExpression (p : Pattern) : p.HasExpression engine := by
  have hcompile := compile_source p.fragments
  rw [← Pattern.source_eq] at hcompile
  exact ⟨wildcards p.fragments, by rw [Pattern.expression, hcompile]⟩

end PlainEngine

end ContentQuery
