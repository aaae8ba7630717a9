import ContentQuery.Proofs.Criterion.Meaning
import ContentQuery.Proofs.Query.Page
import ContentQuery.Proofs.Repository.Search
import ContentQuery.Proofs.Repository.Tree
import Mathlib.Data.Set.Card

/-!
# What a question selects

A question selects the stored nodes that lie below its base path, have its type and meet all of its
criteria. The order and the page have no part in it. These are the nodes that a store finds for the
compiled question, and each of them is found once.
-/

namespace ContentQuery

/-- What a question asks of a node: its place, its type and every criterion. -/
structure Criteria.Selects (criteria : Criteria) (n : Node) : Prop where
  place : ∀ path ∈ criteria.basePath, ∃ base, Path.normalize path = .ok base ∧
    (base = "/" ∨ (base ++ "/").toList <+: n.path.toList)
  type : ∀ type ∈ criteria.nodeType, type = "nt:base" ∨ n.entry.primaryType = type
  clauses : ∀ c ∈ criteria.all, c.Meets n

/-- The number of stored nodes that a question selects. -/
noncomputable def Store.total (store : Store) (criteria : Criteria) : ℕ :=
  {n : Node | store.node? n.path = some n ∧ criteria.Selects n}.ncard

section Compiled

variable {config : Config} {criteria : Criteria} {preferred : Option Language} {d : Descriptor}

/-- A node lies in the scope of a compiled question if it lies below the base path. -/
theorem Config.acceptsPlace_iff (h : Config.checkedBase criteria.basePath = .ok d.basePath)
    (n : Node) : d.acceptsPlace n = true ↔
      ∀ path ∈ criteria.basePath, ∃ base, Path.normalize path = .ok base ∧
        (base = "/" ∨ (base ++ "/").toList <+: n.path.toList) := by
  rw [Descriptor.acceptsPlace]
  cases hpath : criteria.basePath with
  | none =>
    rw [hpath] at h
    cases hbase : d.basePath with
    | none => simp
    | some base => rw [hbase] at h; cases h
  | some path =>
    rw [hpath] at h
    obtain ⟨base, hbase, hchecked⟩ := Result.map_eq_ok.mp h
    by_cases hroot : Path.isRoot base = true
    · rw [if_pos hroot] at hchecked
      have hslash : base = "/" := of_decide_eq_true hroot
      simp [← hchecked, hbase, hslash]
    · rw [if_neg hroot] at hchecked
      have hslash : base ≠ "/" := fun heq => hroot (decide_eq_true heq)
      simp [← hchecked, hbase, hroot, hslash, Path.isBelow]

/-- A compiled question accepts the nodes that the question selects. -/
theorem Config.accepts_iff_selects (h : config.compileCriteria criteria preferred = .ok d)
    (n : Node) : d.accepts n = true ↔ criteria.Selects n := by
  have hdescribes := describes_of_compileCriteria h
  obtain ⟨-, -, hbase⟩ := page_of_compileCriteria h
  have htype : d.acceptsType n = true ↔
      ∀ type ∈ criteria.nodeType, type = "nt:base" ∨ n.entry.primaryType = type := by
    rw [Descriptor.acceptsType, hdescribes.nodeType]
    cases criteria.nodeType with
    | none => simp
    | some type =>
      have htype : type = Sql2.anyType ↔ type = "nt:base" := Iff.rfl
      simp [htype]
  have hclauses : d.criterion.reduce.holds n = true ↔ ∀ c ∈ criteria.all, c.Meets n := by
    rw [hdescribes.criterion, Criterion.holds_reduce_iff, Criteria.criterion, Criterion.Meets]
  rw [Descriptor.accepts, Bool.and_eq_true, Bool.and_eq_true, acceptsPlace_iff hbase, htype,
    hclauses]
  constructor
  · intro h
    obtain ⟨⟨hplace, htype⟩, hclauses⟩ := h
    exact ⟨hplace, htype, hclauses⟩
  · intro h
    exact ⟨⟨h.place, h.type⟩, h.clauses⟩

end Compiled

namespace Store

variable {store : Store} {platform : Platform} {d e : Descriptor} {nodes : List Node}

/-- The hits are the stored nodes that are accepted. -/
theorem mem_of_hits (h : store.Reachable) (hplatform : platform.Lawful)
    (hhits : store.hits platform d = .ok nodes) (n : Node) :
    n ∈ nodes ↔ store.node? n.path = some n ∧ d.accepts n = true := by
  rw [(perm_of_hits hplatform hhits).mem_iff, List.mem_filter, h.wellFormed.mem_nodes_iff]

/-- No node is hit twice. -/
theorem nodup_of_hits (h : store.Reachable) (hplatform : platform.Lawful)
    (hhits : store.hits platform d = .ok nodes) : nodes.Nodup := by
  rw [(perm_of_hits hplatform hhits).nodup_iff]
  exact h.wellFormed.nodup_nodes.filter _

section Compiled

variable {config other : Config} {criteria : Criteria} {preferred wish : Option Language}

/-- There are as many hits as the question selects nodes. -/
theorem length_of_hits (h : store.Reachable) (hplatform : platform.Lawful)
    (hcompile : config.compileCriteria criteria preferred = .ok d)
    (hhits : store.hits platform d = .ok nodes) : nodes.length = store.total criteria := by
  have hselected : {n : Node | store.node? n.path = some n ∧ criteria.Selects n} =
      (nodes.toFinset : Set Node) := by
    ext n
    simp [mem_of_hits h hplatform hhits, Config.accepts_iff_selects hcompile]
  rw [total, hselected, Set.ncard_coe_finset,
    List.toFinset_card_of_nodup (nodup_of_hits h hplatform hhits)]

/-- What is hit does not depend on how the question was compiled. -/
theorem hits_eq_of_compile (hd : config.compileCriteria criteria preferred = .ok d)
    (he : other.compileCriteria criteria wish = .ok e) (store : Store) (platform : Platform) :
    store.hits platform d = store.hits platform e := by
  have hdescribes := Config.describes_of_compileCriteria hd
  have hother := Config.describes_of_compileCriteria he
  obtain ⟨-, -, hbase⟩ := Config.page_of_compileCriteria hd
  obtain ⟨-, -, hotherBase⟩ := Config.page_of_compileCriteria he
  have hscope : d.basePath = e.basePath := Except.ok.inj (hbase.symm.trans hotherBase)
  have hcriterion : d.criterion = e.criterion :=
    hdescribes.criterion.trans hother.criterion.symm
  have hfound : store.found platform.engine d = store.found platform.engine e :=
    found_congr_of_test hscope (hdescribes.nodeType.trans hother.nodeType.symm)
      (by rw [hcriterion]) store
  exact hits_congr hfound (hdescribes.order.trans hother.order.symm)

end Compiled

end Store

end ContentQuery
