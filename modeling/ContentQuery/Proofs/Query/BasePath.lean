import ContentQuery.Proofs.Criterion.Paths
import ContentQuery.Proofs.Query.Compiler
import ContentQuery.Proofs.Repository.Hits
import ContentQuery.Proofs.Statement.Scope

/-!
# Base paths and path criteria

A base path says the same as one more criterion that places nodes below it. A store finds the same
rows for both, and a location path says both in its scope, wherever the criterion stands among
others without paths.
-/

namespace ContentQuery

namespace XPath

variable {before after : List Predicate}

/-- Among parts that are no paths there is no path, and all are others. -/
theorem pathsOf_and_othersOf_of_none {parts : List Predicate}
    (h : ∀ path, .descendantOf path ∉ parts) : pathsOf parts = [] ∧ othersOf parts = parts := by
  have hnone : ∀ p ∈ parts, p.path? = none := fun p hp =>
    Predicate.path?_eq_none fun path heq => h path (heq ▸ hp)
  rw [pathsOf_eq, othersOf_eq, List.filterMap_eq_nil_iff, List.filter_eq_self]
  refine ⟨hnone, fun p hp => ?_⟩
  rw [hnone p hp]
  rfl

/-- The one path of a conjunction becomes the scope, wherever it stands. -/
theorem splitScope_insert (path : String) (hbefore : ∀ path, .descendantOf path ∉ before)
    (hafter : ∀ path, .descendantOf path ∉ after) :
    splitScope (Reduced.ofParts .and (before ++ .descendantOf path :: after)) =
      (some path, Reduced.ofParts .and (before ++ after)) := by
  by_cases hnone : before ++ after = []
  · obtain ⟨rfl, rfl⟩ := List.append_eq_nil_iff.mp hnone
    rfl
  · have hlength : 2 ≤ (before ++ .descendantOf path :: after).length := by
      have := List.length_pos_iff.mpr hnone
      simp only [List.length_append, List.length_cons] at *
      omega
    obtain ⟨hbeforePaths, hbeforeOthers⟩ := pathsOf_and_othersOf_of_none hbefore
    obtain ⟨hafterPaths, hafterOthers⟩ := pathsOf_and_othersOf_of_none hafter
    rw [pathsOf_eq] at hbeforePaths hafterPaths
    rw [othersOf_eq] at hbeforeOthers hafterOthers
    have hpaths : pathsOf (before ++ .descendantOf path :: after) = [path] := by
      simp [pathsOf_eq, hbeforePaths, hafterPaths]
    have hothers : othersOf (before ++ .descendantOf path :: after) = before ++ after := by
      simp [othersOf_eq, hbeforeOthers, hafterOthers]
    rw [Reduced.ofParts_eq_junction .and hlength, splitScope, hpaths]
    simp only [hothers]

end XPath

namespace Criterion

/-- What is kept of criteria without paths is no path. -/
theorem descendantOf_not_mem_of_keep {clauses : List Criterion} {kept : List Predicate}
    (h : ∀ c ∈ clauses, ∀ path, ¬ c.HasPath path)
    (hkeep : Reduced.keep .and (clauses.map reduce) = some kept) (path : String) :
    .descendantOf path ∉ kept := by
  intro hpath
  obtain ⟨c, hc, hreduce⟩ := List.mem_map.mp (Reduced.mem_of_keep hkeep hpath)
  refine h c hc path (.of_reduce ?_)
  rw [hreduce]
  exact List.mem_singleton_self _

/-- A conjunction that some node may meet, without paths but for one anywhere among its clauses,
becomes that path as the scope and the conjunction of the other clauses. -/
theorem splitScope_insert {before after : List Criterion} {path : String}
    (hroot : Path.isRoot path = false)
    (hfree : ∀ c ∈ before ++ after, ∀ path, ¬ c.HasPath path)
    (hnever : (junction .and (before ++ after)).reduce ≠ .never) :
    XPath.splitScope (junction .and (before ++ .descendantOf path :: after)).reduce =
      (some path, (junction .and (before ++ after)).reduce) := by
  rw [reduce, reduceAll_eq] at hnever
  obtain ⟨kept, hkept⟩ := Reduced.exists_keep_of_join_ne_never hnever
  have hparts := hkept
  rw [List.map_append, Reduced.keep_append] at hparts
  obtain ⟨first, hfirst, hparts⟩ := Option.bind_eq_some_iff.mp hparts
  obtain ⟨second, hsecond, rfl⟩ := Option.map_eq_some_iff.mp hparts
  have hpath : (descendantOf path).reduce = .predicate (.descendantOf path) := by
    simp [reduce, hroot]
  have hinserted : Reduced.keep .and ((before ++ .descendantOf path :: after).map reduce) =
      some (first ++ .descendantOf path :: second) := by
    rw [List.map_append, List.map_cons, hpath, Reduced.keep_append, hfirst, Reduced.keep, hsecond]
    rfl
  have hleft := descendantOf_not_mem_of_keep
    (fun c hc => hfree c (List.mem_append_left after hc)) hfirst
  have hright := descendantOf_not_mem_of_keep
    (fun c hc => hfree c (List.mem_append_right before hc)) hsecond
  simp only [reduce, reduceAll_eq, Reduced.join, hkept, hinserted]
  exact XPath.splitScope_insert path hleft hright

end Criterion

namespace Matcher

variable {engine : ExpressionEngine}

/-- Joined to a path, a condition is tested on the nodes below the path, and prepared or not as it
is alone. -/
theorem test_join_path (engine : ExpressionEngine) (path : String) (r : Reduced) :
    test engine (Reduced.join .and [(Criterion.descendantOf path).reduce, r]) =
      (test engine r).map fun holds n =>
        (Path.isRoot path || Path.isBelow n.path path) && holds n := by
  cases hroot : Path.isRoot path with
  | true =>
    have hjoin : Reduced.join .and [(Criterion.descendantOf path).reduce, r] = r := by
      rw [Criterion.reduce, if_pos hroot]
      cases r <;> rfl
    rw [hjoin]
    cases htest : test engine r <;> simp [Except.map]
  | false =>
    rw [Criterion.reduce, if_neg (by simp [hroot])]
    cases r with
    | always =>
      simp [Reduced.join, Reduced.keep, Reduced.ofParts, test, ofReduced, ofPredicate, Except.map,
        accepts, Path.isBelow]
    | never =>
      simp [Reduced.join, Reduced.keep, Reduced.deciding, test, ofReduced, Except.map, accepts]
    | predicate q =>
      cases hprepared : ofPredicate engine q <;>
        simp [Reduced.join, Reduced.keep, Reduced.ofParts, test, ofReduced, ofPredicate,
          ofPredicates, Except.map, Bind.bind, Except.bind, Pure.pure, Except.pure, hprepared,
          accepts, acceptsAll, Path.isBelow]

end Matcher

namespace Store

/-- A store has the same answer for a base path and for one more clause that places nodes below
it. -/
theorem execute_base_path (store : Store) (platform : Platform) (settings : SearchSettings)
    (d : Descriptor) (path : String) (runs : ℕ) :
    (store.executor platform settings).execute (d.withBasePath (some path)) runs =
      (store.executor platform settings).execute { d with
        basePath := none
        criterion := .junction .and [.descendantOf path, d.criterion] } runs := by
  have hreduce : (Criterion.junction .and [.descendantOf path, d.criterion]).reduce =
      Reduced.join .and [(Criterion.descendantOf path).reduce, d.criterion.reduce] := rfl
  have hfound : store.found platform.engine (d.withBasePath (some path)) =
      store.found platform.engine { d with
        basePath := none
        criterion := .junction .and [.descendantOf path, d.criterion] } := by
    rw [found_eq_map_test, found_eq_map_test, hreduce, Matcher.test_join_path]
    change (Matcher.test platform.engine d.criterion.reduce).map _ = _
    cases Matcher.test platform.engine d.criterion.reduce with
    | error e => rfl
    | ok holds =>
      refine congrArg Except.ok (List.filter_congr fun n _ => ?_)
      change ((Path.isRoot path || Path.isBelow n.path path) && d.acceptsType n && holds n) =
        (true && d.acceptsType n && ((Path.isRoot path || Path.isBelow n.path path) && holds n))
      rw [Bool.true_and, Bool.and_assoc, Bool.and_left_comm]
  exact execute_congr (hits_congr hfound rfl) rfl rfl settings runs

end Store

namespace Config

/-- A base path and a path criterion are interchangeable. On every platform, every executor of every
store has the same answer for a descriptor with any base path as for the one that has it as one more
clause: the same rows and total, or the same failure. And a question without paths in its criteria,
which some node may meet, is compiled to the same location path, or fails in the same way, whether a
path that is not the root is its base path or a checked criterion anywhere among the others. -/
theorem base_path_or_criterion :
    (∀ (store : Store) (platform : Platform) (settings : SearchSettings) (d : Descriptor)
        (path : String) (runs : ℕ),
      (store.executor platform settings).execute (d.withBasePath (some path)) runs =
        (store.executor platform settings).execute { d with
          basePath := none
          criterion := .junction .and [.descendantOf path, d.criterion] } runs) ∧
    ∀ (config : Config) (criteria : Criteria) (preferred : Option Language) (path normal : String)
      (placed : Criterion) (before after : List Criterion),
      config.resolve criteria.language preferred = .xpath →
      Path.normalize path = .ok normal → normal ≠ "/" → Criterion.ofPath path = .ok placed →
      (∀ c ∈ before ++ after, ∀ inner, ¬ c.HasPath inner) →
      (Criterion.junction .and (before ++ after)).reduce ≠ .never →
      (config.compileCriteria { criteria with
          basePath := some path
          all := before ++ after } preferred).map (·.statement) =
        (config.compileCriteria { criteria with
          basePath := none
          all := before ++ placed :: after } preferred).map (·.statement) := by
  refine ⟨Store.execute_base_path, ?_⟩
  intro config criteria preferred path normal placed before after hxpath hnormal hroot hplaced
    hfree hnever
  obtain ⟨_, hsame, rfl⟩ := Result.map_eq_ok.mp hplaced
  obtain rfl := Except.ok.inj (hnormal.symm.trans hsame)
  have hnotRoot : Path.isRoot normal = false := decide_eq_false hroot
  have hbase : checkedBase (some path) = .ok (some normal) := by
    rw [checkedBase, hnormal]
    simp [Except.map, hnotRoot]
  have hsplit := Criterion.splitScope_insert hnotRoot hfree hnever
  have hresolve : config.resolve .xpath none = .xpath := rfl
  have hscope : XPath.scopeAndFilter
      ⟨.junction .and (before ++ after), some normal, criteria.nodeType, criteria.order⟩ =
      XPath.scopeAndFilter ⟨.junction .and (before ++ .descendantOf normal :: after), none,
        criteria.nodeType, criteria.order⟩ := by
    rw [XPath.scopeAndFilter, XPath.scopeAndFilter]
    simp only [Request.scope, Option.filter, hnotRoot, Bool.not_false, if_true, hsplit]
  have hstatement : XPath.statement
      ⟨.junction .and (before ++ after), some normal, criteria.nodeType, criteria.order⟩ =
      XPath.statement ⟨.junction .and (before ++ .descendantOf normal :: after), none,
        criteria.nodeType, criteria.order⟩ := by
    rw [XPath.statement, XPath.statement, hscope]
    rfl
  rw [statement_compileCriteria, statement_compileCriteria]
  simp only [hxpath, hresolve, hbase]
  exact hstatement

/-- A condition that is left alone when the path and a clause without meaning are taken away. -/
def titledOrSeen : Criterion :=
  .junction .or [.presence ⟨"title"⟩ true, .not (.comparison ⟨"views"⟩ .lt (.long 3))]

/-- The question below a path that is not in normal form, with the path as base path and as a
criterion between two others. -/
theorem location_of_titledOrSeen :
    (standard.compileCriteria { Criteria.empty.withLanguage .xpath with
        basePath := some " /content//* "
        all := [.junction .and []] ++ [titledOrSeen] } none).map (·.statement) =
      (standard.compileCriteria { Criteria.empty.withLanguage .xpath with
        basePath := none
        all := [.junction .and []] ++ .descendantOf "/content" :: [titledOrSeen] } none).map
          (·.statement) ∧
    (standard.compileCriteria { Criteria.empty.withLanguage .xpath with
        basePath := some " /content//* "
        all := [.junction .and []] ++ [titledOrSeen] } none).map (·.statement) =
      .ok "/jcr:root/content//*[@title or not(@views < 3)]" := by
  have hfree : ∀ c ∈ [.junction .and []] ++ [titledOrSeen],
      ∀ inner, ¬ Criterion.HasPath c inner := by
    intro c hc inner hpath
    rcases List.mem_cons.mp hc with rfl | hc
    · obtain _ | _ | ⟨-, hc, -⟩ := hpath
      cases hc
    · obtain rfl := List.mem_singleton.mp hc
      obtain _ | _ | ⟨-, hc, hpath⟩ := hpath
      rcases List.mem_cons.mp hc with rfl | hc
      · cases hpath
      · obtain rfl := List.mem_singleton.mp hc
        obtain _ | hpath := hpath
        cases hpath
  obtain ⟨-, hsame⟩ := base_path_or_criterion
  refine ⟨hsame standard _ none " /content//* " "/content" _ [.junction .and []] [titledOrSeen]
    rfl rfl (by decide) rfl hfree (by nofun), rfl⟩

end Config

end ContentQuery
