import ContentQuery.Proofs.Repository.Matcher
import ContentQuery.Proofs.Repository.Platform
import ContentQuery.Repository.Search

/-!
# What a search finds

On a lawful platform a search finds the stored nodes that its descriptor accepts, in some order, or
it fails. It can fail where the engine refuses a pattern of the criterion and where the order goes
round among the nodes that are found, and nowhere else. Whatever two descriptors find alike they
sort alike.
-/

namespace ContentQuery

/-- Whether a node is asked for: it lies in the scope, has the type and meets the criterion. -/
def Descriptor.accepts (d : Descriptor) (n : Node) : Bool :=
  d.acceptsPlace n && d.acceptsType n && d.criterion.reduce.holds n

namespace Store

variable {platform : Platform} {store : Store} {d e : Descriptor} {nodes : List Node}

/-! ### In document order -/

/-- Nodes are found by their place, their type and the test that is prepared for the condition. -/
theorem found_eq_map_test (store : Store) (engine : ExpressionEngine) (d : Descriptor) :
    store.found engine d = (Matcher.test engine d.criterion.reduce).map fun holds =>
      store.nodes.filter fun n => d.acceptsPlace n && d.acceptsType n && holds n := by
  rw [found, Matcher.test]
  cases Matcher.ofReduced engine d.criterion.reduce <;> rfl

/-- Descriptors with one scope and type, and with one test, find the same under any engine. -/
theorem found_congr_of_test {engine : ExpressionEngine} (hscope : d.basePath = e.basePath)
    (htype : d.nodeType = e.nodeType)
    (htest : Matcher.test engine d.criterion.reduce = Matcher.test engine e.criterion.reduce)
    (store : Store) : store.found engine d = store.found engine e := by
  rw [found_eq_map_test, found_eq_map_test, htest]
  unfold Descriptor.acceptsPlace Descriptor.acceptsType
  rw [hscope, htype]

/-- Under a lawful engine nodes are found as they are accepted, once the condition is prepared. -/
theorem found_eq {engine : ExpressionEngine} (h : engine.Lawful) (store : Store) (d : Descriptor) :
    store.found engine d =
      (Matcher.ofReduced engine d.criterion.reduce).map fun _ => store.nodes.filter d.accepts := by
  rw [found_eq_map_test, Matcher.test_eq h]
  cases Matcher.ofReduced engine d.criterion.reduce <;> rfl

/-- Under a lawful engine that compiles all patterns, nodes are found as they are accepted. -/
theorem found_of_compiles {engine : ExpressionEngine} (h : engine.Lawful)
    (hcompiles : engine.Compiles d.criterion.reduce) (store : Store) :
    store.found engine d = .ok (store.nodes.filter d.accepts) := by
  obtain ⟨m, hm⟩ := (Matcher.exists_ofReduced_iff _).mpr hcompiles
  rw [found_eq h, hm]
  rfl

/-- Descriptors that accept the same nodes, and whose conditions fail alike to be prepared, find the
same. -/
theorem found_congr {engine : ExpressionEngine} (h : engine.Lawful)
    (haccepts : d.accepts = e.accepts)
    (herror : Result.error? (Matcher.ofReduced engine d.criterion.reduce) =
      Result.error? (Matcher.ofReduced engine e.criterion.reduce)) (store : Store) :
    store.found engine d = store.found engine e := by
  rw [found_eq h, found_eq h, haccepts, Result.map_const_congr herror]

/-- Where the engine refuses a pattern nothing is found, and this is an internal error. -/
theorem exists_found_eq_error {engine : ExpressionEngine} (h : ¬ engine.Compiles d.criterion.reduce)
    (store : Store) : ∃ pattern ∈ d.criterion.reduce.patterns, ∃ why,
      pattern.expression engine = .error (.internal why) ∧
      store.found engine d = .error (.internal why) := by
  rw [← Matcher.exists_ofReduced_iff] at h
  cases hprepared : Matcher.ofReduced engine d.criterion.reduce with
  | ok m => exact absurd ⟨m, hprepared⟩ h
  | error e =>
    obtain ⟨pattern, hpattern, hrefused⟩ := Matcher.exists_refused hprepared
    obtain ⟨why, rfl⟩ := Pattern.exists_internal_of_expression hrefused
    refine ⟨pattern, hpattern, why, hrefused, ?_⟩
    rw [found, hprepared]
    rfl

/-! ### Sorted -/

/-- Without an order the hits are what was found. -/
theorem hits_of_order_nil (h : d.order = []) :
    store.hits platform d = store.found platform.engine d := by
  rw [hits, h]
  cases store.found platform.engine d <;> rfl

/-- By an order the hits are what was found and then sorted. -/
theorem hits_of_order_ne_nil (h : d.order ≠ []) : store.hits platform d =
    store.found platform.engine d >>= fun found =>
      (platform.sorting.sort (compareNodes d.order) found).mapError .aborted := by
  rw [hits]
  simp [h]

/-- Where the engine refuses a pattern there are no hits. -/
theorem exists_hits_eq_error (h : ¬ platform.engine.Compiles d.criterion.reduce) (store : Store) :
    ∃ pattern ∈ d.criterion.reduce.patterns, ∃ why,
      pattern.expression platform.engine = .error (.internal why) ∧
      store.hits platform d = .error (.internal why) := by
  obtain ⟨pattern, hpattern, why, hrefused, hfound⟩ := exists_found_eq_error h store
  refine ⟨pattern, hpattern, why, hrefused, ?_⟩
  rw [hits, hfound]
  rfl

/-- What two descriptors find alike they sort alike. -/
theorem hits_congr (hfound : store.found platform.engine d = store.found platform.engine e)
    (horder : d.order = e.order) : store.hits platform d = store.hits platform e := by
  rw [hits, hits, hfound, horder]

/-- The hits are the nodes that were found, in some order. -/
theorem exists_found_of_hits (h : platform.Lawful) (hhits : store.hits platform d = .ok nodes) :
    ∃ found, store.found platform.engine d = .ok found ∧ nodes.Perm found := by
  by_cases horder : d.order = []
  · rw [hits_of_order_nil horder] at hhits
    exact ⟨nodes, hhits, .refl nodes⟩
  · rw [hits_of_order_ne_nil horder] at hhits
    obtain ⟨found, hfound, hsort⟩ := Result.bind_eq_ok.mp hhits
    refine ⟨found, hfound, ?_⟩
    cases hsorted : platform.sorting.sort (compareNodes d.order) found with
    | error why => rw [hsorted] at hsort; cases hsort
    | ok sorted =>
      rw [hsorted] at hsort
      obtain rfl := Except.ok.inj hsort
      exact h.sorting.perm hsorted

/-- The hits are the nodes that are accepted, in some order. -/
theorem perm_of_hits (h : platform.Lawful) (hhits : store.hits platform d = .ok nodes) :
    nodes.Perm (store.nodes.filter d.accepts) := by
  obtain ⟨found, hfound, hperm⟩ := exists_found_of_hits h hhits
  rw [found_eq h.engine] at hfound
  obtain ⟨-, -, rfl⟩ := Result.map_eq_ok.mp hfound
  exact hperm

/-- Nodes are found and sorted where all patterns are compiled and the nodes have an order. -/
theorem exists_hits (h : platform.Lawful) (hcompiles : platform.engine.Compiles d.criterion.reduce)
    (horders : Sorting.Orders (compareNodes d.order) (store.nodes.filter d.accepts)) :
    ∃ nodes, store.hits platform d = .ok nodes ∧
      nodes.Pairwise (Sorting.Before (compareNodes d.order) (store.nodes.filter d.accepts)) := by
  have hfound := found_of_compiles h.engine hcompiles store
  by_cases horder : d.order = []
  · refine ⟨_, (hits_of_order_nil horder).trans hfound, ?_⟩
    rw [horder]
    exact List.pairwise_iff_forall_sublist.mpr fun {a b} hlisted => .inr ⟨rfl, hlisted⟩
  · obtain ⟨sorted, hsorted, hpairwise⟩ := h.sorting.sorts horders
    refine ⟨sorted, ?_, hpairwise⟩
    rw [hits_of_order_ne_nil horder, hfound]
    exact congrArg (Except.mapError Error.aborted) hsorted

/-- Where no node meets the criterion, none is found, and there is nothing to sort. -/
theorem hits_of_never (h : platform.Lawful) (hnever : d.criterion.reduce = .never) :
    store.hits platform d = .ok [] := by
  have hnone : store.nodes.filter d.accepts = [] := by
    simp [Descriptor.accepts, hnever, Reduced.holds]
  have hcompiles : platform.engine.Compiles d.criterion.reduce := by
    rw [hnever]
    exact .never
  have horders : Sorting.Orders (compareNodes d.order) (store.nodes.filter d.accepts) := by
    rw [hnone]
    exact .nil
  obtain ⟨nodes, hhits, -⟩ := exists_hits h hcompiles horders
  have hperm := perm_of_hits h hhits
  rw [hnone] at hperm
  rw [hhits, hperm.eq_nil]

/-! ### Answers -/

/-- The answer to a descriptor whose paging is dropped. -/
theorem execute_withoutPaging (store : Store) (platform : Platform) (settings : SearchSettings)
    (d : Descriptor) (runs : ℕ) :
    (store.executor platform settings).execute d.withoutPaging runs =
      (match settings.failure with
        | some text => .error (.execution text)
        | none => (store.hits platform d).map fun hits =>
            ⟨if settings.nativeSize then some hits.length else none, hits.map rowOf⟩,
        runs + 1) := by
  have hhits : store.hits platform d.withoutPaging = store.hits platform d := rfl
  have hslice (nodes : List Node) : d.withoutPaging.slice nodes = nodes := rfl
  simp only [executor, search, hhits, hslice, ite_self]
  cases settings.failure with
  | some text => rfl
  | none => cases store.hits platform d <;> rfl

/-- Descriptors with the same hits and the same page have the same answer. -/
theorem execute_congr (hhits : store.hits platform d = store.hits platform e)
    (hoffset : d.offset = e.offset) (hlimit : d.limit = e.limit) (settings : SearchSettings)
    (runs : ℕ) : (store.executor platform settings).execute d runs =
      (store.executor platform settings).execute e runs := by
  have hslice (nodes : List Node) : d.slice nodes = e.slice nodes := by
    rw [Descriptor.slice, Descriptor.slice, hoffset, hlimit]
  simp only [executor, search, hhits, hslice]

end Store

end ContentQuery
