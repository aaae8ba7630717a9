import ContentQuery.Proofs.Criterion.Atoms
import ContentQuery.Proofs.Criterion.Meaning
import ContentQuery.Proofs.Repository.Engine

/-!
# Prepared conditions accept what the criterion means

A condition is prepared unless its engine refuses a pattern in it, and the first pattern that is
refused is reported. Under a lawful engine, what is prepared accepts the nodes that meet the
condition. With the meaning of criteria, a prepared criterion accepts the nodes that meet the
criterion as it is read off its tree.
-/

namespace ContentQuery

/-- An engine compiles all patterns in what remains of a condition. -/
def ExpressionEngine.Compiles (engine : ExpressionEngine) (r : Reduced) : Prop :=
  ∀ pattern ∈ r.patterns, pattern.HasExpression engine

/-- The constant that no node meets has no patterns. -/
theorem ExpressionEngine.Compiles.never {engine : ExpressionEngine} : engine.Compiles .never :=
  fun _ hpattern => absurd hpattern List.not_mem_nil

namespace Matcher

variable {engine : ExpressionEngine}

/-! ### Whether a condition is prepared -/

/-- Why an atom cannot be prepared. -/
def fault? (engine : ExpressionEngine) (atom : Predicate) : Option Error :=
  atom.pattern?.bind fun pattern => Result.error? (pattern.expression engine)

/-- A predicate fails to be prepared as its first atom does that fails. -/
theorem error?_ofPredicate (p : Predicate) :
    Result.error? (ofPredicate engine p) = p.atoms.findSome? (fault? engine) := by
  induction p with
  | compare | contains | presence | descendantOf => rfl
  | like p pattern =>
    rw [ofPredicate, Result.error?_bind_pure, Predicate.atoms, List.findSome?_singleton]
    rfl
  | not inner ih => rw [ofPredicate, Result.error?_bind_pure, ih, Predicate.atoms]
  | junction k parts ih =>
    rw [ofPredicate, Result.error?_bind_pure, Predicate.atoms, Predicate.atomsOfAll_eq,
      Predicate.findSome?_flatMap_atoms]
    exact Result.error?_of_each (ofPredicate engine) (ofPredicates engine) rfl (fun _ _ => rfl) ih

/-- What remains of a condition fails to be prepared as its first pattern does that is refused. -/
theorem error?_ofReduced (r : Reduced) :
    Result.error? (ofReduced engine r) =
      r.patterns.findSome? fun pattern => Result.error? (pattern.expression engine) := by
  rw [Reduced.patterns, ← List.head?_filterMap, List.filterMap_filterMap, List.head?_filterMap]
  cases r with
  | always | never => rfl
  | predicate p => exact error?_ofPredicate p

/-- What remains of a condition is prepared exactly if all of its patterns are compiled. -/
theorem exists_ofReduced_iff (r : Reduced) :
    (∃ m, ofReduced engine r = .ok m) ↔ engine.Compiles r := by
  rw [← Result.error?_eq_none, error?_ofReduced, List.findSome?_eq_none_iff]
  simp only [Result.error?_eq_none, ExpressionEngine.Compiles, Pattern.HasExpression]

/-- A condition that cannot be prepared has a pattern that is refused. -/
theorem exists_refused {r : Reduced} {e : Error} (h : ofReduced engine r = .error e) :
    ∃ pattern ∈ r.patterns, pattern.expression engine = .error e := by
  rw [← Result.error?_eq_some, error?_ofReduced] at h
  obtain ⟨pattern, hpattern, herror⟩ := List.exists_of_findSome?_eq_some h
  exact ⟨pattern, hpattern, Result.error?_eq_some.mp herror⟩

/-- Predicates are prepared if each of them is. -/
theorem ofPredicates_eq_ok_iff {parts : List Predicate} {ms : List (Matcher engine)} :
    ofPredicates engine parts = .ok ms ↔
      List.Forall₂ (fun p m => ofPredicate engine p = .ok m) parts ms := by
  induction parts generalizing ms with
  | nil =>
    rw [ofPredicates, List.forall₂_nil_left_iff, Except.ok.injEq]
    exact eq_comm
  | cons p rest ih =>
    rw [ofPredicates, List.forall₂_cons_left_iff, Result.bind_eq_ok]
    refine exists_congr fun m => ?_
    rw [Result.bind_eq_ok]
    constructor
    · rintro ⟨hm, others, hothers, heq⟩
      exact ⟨others, hm, ih.mp hothers, (Except.ok.inj heq).symm⟩
    · rintro ⟨others, hm, hothers, rfl⟩
      exact ⟨hm, others, ih.mpr hothers, rfl⟩

/-- Under a lawful engine conditions whose patterns are written alike fail alike to be prepared. -/
theorem error?_ofReduced_congr (h : engine.Lawful) {r s : Reduced}
    (hwrite : r.patterns.map Pattern.write = s.patterns.map Pattern.write) :
    Result.error? (ofReduced engine r) = Result.error? (ofReduced engine s) := by
  rw [error?_ofReduced, error?_ofReduced]
  generalize r.patterns = patterns, s.patterns = others at hwrite
  induction patterns generalizing others with
  | nil => rw [List.map_eq_nil_iff.mp hwrite.symm]
  | cons p rest ih =>
    obtain ⟨q, later, rfl, hfirst, hrest⟩ := List.map_eq_cons_iff.mp hwrite.symm
    rw [List.findSome?_cons, List.findSome?_cons, ih later hrest.symm,
      Pattern.expression_eq_of_write_eq h hfirst]

/-! ### What a prepared condition accepts -/

/-- A node meets a prepared junction as its connective says. -/
theorem accepts_junction (n : Node) (k : Connective) (parts : List (Matcher engine)) :
    accepts n (junction k parts) = k.combines (accepts n) parts := by
  have hall (parts : List (Matcher engine)) : acceptsAll n parts = parts.all (accepts n) := by
    induction parts with
    | nil => rfl
    | cons m rest ih => simp [acceptsAll, ih]
  have hany (parts : List (Matcher engine)) : acceptsAny n parts = parts.any (accepts n) := by
    induction parts with
    | nil => rfl
    | cons m rest ih => simp [acceptsAny, ih]
  cases k <;> simp [accepts, Connective.combines, hall, hany]

/-- Prepared words are searched in the words of the property. -/
theorem accepts_contains (n : Node) (p : Property) (text : String) :
    accepts n (contains p (Text.words text.toList) : Matcher engine) = n.contains p text := by
  have hwords : n.searchable p = (wordsIn? n p).getD [] := by
    rw [Node.searchable, wordsIn?]
    split
    · rfl
    · cases n.property? p.name <;> rfl
  rw [accepts, Node.contains, hwords]
  cases hterms : Text.words text.toList with
  | nil => rfl
  | cons word rest => cases wordsIn? n p <;> simp

/-- Predicates that are prepared together accept nodes as they do one by one. -/
theorem combines_ofPredicates {parts : List Predicate} {ms : List (Matcher engine)}
    (hms : ofPredicates engine parts = .ok ms)
    (h : ∀ p ∈ parts, ∀ m, ofPredicate engine p = .ok m → ∀ n, accepts n m = p.holds n)
    (n : Node) (k : Connective) :
    k.combines (accepts n) ms = k.combines (Predicate.holds n) parts := by
  induction ofPredicates_eq_ok_iff.mp hms with
  | nil => cases k <;> rfl
  | @cons p m rest others hm hothers ih =>
    exact k.combines_cons_congr (h p List.mem_cons_self m hm n)
      (ih (ofPredicates_eq_ok_iff.mpr hothers) fun q hq => h q (List.mem_cons_of_mem p hq))

/-- Under a lawful engine a predicate that is prepared accepts the nodes that meet it. -/
theorem accepts_of_ofPredicate (h : engine.Lawful) {p : Predicate} {m : Matcher engine}
    (hm : ofPredicate engine p = .ok m) (n : Node) : accepts n m = p.holds n := by
  induction p generalizing m n with
  | compare | presence =>
    obtain rfl := Except.ok.inj hm
    rfl
  | like p pattern =>
    obtain ⟨compiled, hcompile, heq⟩ := Result.bind_eq_ok.mp hm
    obtain rfl := Except.ok.inj heq
    simp only [accepts, Predicate.holds, Pattern.accepts_expression h hcompile]
  | contains p s =>
    obtain rfl := Except.ok.inj hm
    exact accepts_contains n p s
  | descendantOf path =>
    obtain rfl := Except.ok.inj hm
    simp [accepts, Predicate.holds, Path.isBelow]
  | not inner ih =>
    obtain ⟨prepared, hprepared, heq⟩ := Result.bind_eq_ok.mp hm
    obtain rfl := Except.ok.inj heq
    rw [accepts, Predicate.holds, ih hprepared]
  | junction k parts ih =>
    obtain ⟨prepared, hprepared, heq⟩ := Result.bind_eq_ok.mp hm
    obtain rfl := Except.ok.inj heq
    rw [accepts_junction, Predicate.holds_junction]
    exact combines_ofPredicates hprepared (fun p hp m hm n => ih p hp hm n) n k

/-- Under a lawful engine what remains of a condition accepts, once it is prepared, the nodes that
meet it. -/
theorem accepts_of_ofReduced (h : engine.Lawful) {r : Reduced} {m : Matcher engine}
    (hm : ofReduced engine r = .ok m) (n : Node) : accepts n m = r.holds n := by
  cases r with
  | always | never =>
    obtain rfl := Except.ok.inj hm
    rfl
  | predicate p => exact accepts_of_ofPredicate h hm n

/-- The test that is prepared for a condition. -/
def test (engine : ExpressionEngine) (r : Reduced) : Result (Node → Bool) :=
  (ofReduced engine r).map fun m n => accepts n m

/-- There is a test exactly if all patterns of the condition are compiled. -/
theorem exists_test_iff (r : Reduced) :
    (∃ holds, test engine r = .ok holds) ↔ engine.Compiles r := by
  rw [← exists_ofReduced_iff, ← Result.error?_eq_none, test, Result.error?_map,
    Result.error?_eq_none]

/-- Under a lawful engine the test of a condition is whether a node meets it. -/
theorem test_eq (h : engine.Lawful) (r : Reduced) :
    test engine r = (ofReduced engine r).map fun _ n => r.holds n := by
  rw [test]
  cases hprepared : ofReduced engine r with
  | error e => rfl
  | ok m => exact congrArg Except.ok (funext fun n => accepts_of_ofReduced h hprepared n)

/-- Conditions that are the same but for the order of their parts have the same test, if it can be
prepared, under any engine. -/
theorem test_of_shuffled {r s : Reduced} (h : r.Shuffled s) {holds : Node → Bool}
    (htest : test engine r = .ok holds) : test engine s = .ok holds := by
  cases h with
  | refl => exact htest
  | @junction k parts others hperm =>
    obtain ⟨m, hm, rfl⟩ := Result.map_eq_ok.mp htest
    obtain ⟨ms, hms, heq⟩ := Result.bind_eq_ok.mp hm
    obtain rfl := Except.ok.inj heq
    obtain ⟨shuffled, hshuffled, hsame⟩ :=
      List.perm_comp_forall₂ hperm.symm (ofPredicates_eq_ok_iff.mp hms)
    refine Result.map_eq_ok.mpr ⟨junction k shuffled, ?_, funext fun n => ?_⟩
    · exact Result.bind_eq_ok.mpr ⟨shuffled, ofPredicates_eq_ok_iff.mpr hshuffled, rfl⟩
    · rw [accepts_junction, accepts_junction, k.combines_perm hsame]

/-- Under a lawful engine that compiles the patterns in what a criterion is reduced to, the
criterion can be reduced and prepared. What is prepared, and the reduced criterion alike, accept the
nodes that meet the criterion as its tree is read. -/
theorem accepts_reduce_iff_meets (h : engine.Lawful) (c : Criterion)
    (hcompiles : engine.Compiles c.reduce) :
    ∃ m, ofReduced engine c.reduce = .ok m ∧
      ∀ n, (accepts n m = true ↔ c.Meets n) ∧ (c.reduce.holds n = true ↔ c.Meets n) := by
  obtain ⟨m, hm⟩ := (exists_ofReduced_iff c.reduce).mpr hcompiles
  refine ⟨m, hm, fun n => ⟨?_, c.holds_reduce_iff n⟩⟩
  rw [accepts_of_ofReduced h hm, c.holds_reduce_iff]

/-- A negation in a junction in a junction, with an empty junction and a range beside it. -/
def sample : Criterion :=
  .junction .and [
    .not (.not (.junction .or [.junction .or [], .patternMatch ⟨"title"⟩ "50%" .start])),
    .junction .and [], .range ⟨"size"⟩ (.long 1) (.long 5), .not (.anyOf ⟨"tags"⟩ []),
    .descendantOf "/a"]

/-- A node that meets the sample. -/
def sampleNode : Node :=
  ⟨"/a/b", "nt:unstructured", [("title", .text "50% off.*"), ("size", .long 3)]⟩

/-- The plain engine is lawful, and with it the sample can be prepared and accepts its node. -/
theorem accepts_sample : PlainEngine.engine.Lawful ∧ PlainEngine.engine.Compiles sample.reduce ∧
    ∃ m, ofReduced PlainEngine.engine sample.reduce = .ok m ∧ accepts sampleNode m = true ∧
      sample.Meets sampleNode := by
  have hcompiles : PlainEngine.engine.Compiles sample.reduce := fun pattern _ =>
    PlainEngine.hasExpression pattern
  obtain ⟨m, hm, h⟩ := accepts_reduce_iff_meets PlainEngine.lawful sample hcompiles
  have hmeets : sample.Meets sampleNode := (h sampleNode).2.mp (by decide)
  exact ⟨PlainEngine.lawful, hcompiles, m, hm, (h sampleNode).1.mpr hmeets, hmeets⟩

end Matcher

end ContentQuery
