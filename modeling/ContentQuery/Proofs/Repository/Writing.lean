import ContentQuery.Proofs.Repository.DocumentOrder
import ContentQuery.Proofs.Repository.Growth
import ContentQuery.Proofs.Repository.Insertion
import ContentQuery.Repository.Writing

/-!
# What an update in place changes

An update that is refused has written nothing, as all that it writes comes behind its last check. An
update that is not refused changes one place: there is one more record, which its parent lists last,
or one property of one record has a value. In document order the new node comes right behind the
last one within its parent, and nothing else is moved.
-/

namespace ContentQuery

/-! ### One property among others -/

namespace Properties

/-- Properties before and after a name was set: its value is another one in its place, or it is new
and comes behind all others. No other property has the name. -/
inductive IsSet (name : String) (value : Value) : Properties → Properties → Prop
  | inPlace (before after : Properties) (old : Value) (hbefore : name ∉ before.map Prod.fst)
    (hafter : name ∉ after.map Prod.fst) :
    IsSet name value (before ++ (name, old) :: after) (before ++ (name, value) :: after)
  | behind {all : Properties} (h : name ∉ all.map Prod.fst) :
    IsSet name value all (all ++ [(name, value)])

variable {name : String} {properties next : Properties}

/-- A name that is set among different names is set in one place. -/
theorem isSet_set (h : (properties.map Prod.fst).Nodup) (name : String) (value : Value) :
    IsSet name value properties (set name value properties) := by
  induction properties with
  | nil => exact .behind List.not_mem_nil
  | cons property rest ih =>
    obtain ⟨other, old⟩ := property
    rw [List.map_cons, List.nodup_cons] at h
    rw [set]
    split
    · next heq =>
      subst heq
      exact .inPlace [] rest old List.not_mem_nil h.1
    · next hne =>
      have hbeside {names : List String} (hnames : name ∉ names) : name ∉ other :: names := by
        rw [List.mem_cons, not_or]
        exact ⟨Ne.symm hne, hnames⟩
      generalize set name value rest = changed at ih
      cases ih h.2 with
      | inPlace before after earlier hbefore hafter =>
        exact .inPlace ((other, old) :: before) after earlier (hbeside hbefore) hafter
      | behind hnew => exact .behind (hbeside hnew)

/-- Names stay different. -/
theorem IsSet.nodup {value : Value} (h : IsSet name value properties next)
    (hnodup : (properties.map Prod.fst).Nodup) : (next.map Prod.fst).Nodup := by
  cases h with
  | inPlace before after old hbefore hafter => simpa using hnodup
  | behind hnew =>
    rw [List.map_append, List.map_singleton, ← List.concat_eq_append]
    exact hnodup.concat hnew

end Properties

/-- The properties of a node have different names. -/
theorem Store.Reachable.nodup_properties {store : Store} (h : store.Reachable) {path : String}
    {record : Record} (hrecord : store.record? path = some record) :
    (record.entry.properties.map Prod.fst).Nodup := by
  induction h generalizing path record with
  | empty =>
    rw [← NodeTable.mirrors_initial.record?, NodeTable.initial, NodeTable.record?] at hrecord
    split at hrecord
    · cases hrecord
      exact List.nodup_nil
    · cases hrecord
  | @add store next parent name primaryType new h hadd ih =>
    obtain ⟨base, -, -, hadded⟩ := added_of_add h.wellFormed hadd
    rw [hadded.record?] at hrecord
    split at hrecord
    · cases hrecord
      exact List.nodup_nil
    · split at hrecord
      · obtain ⟨old, hold, rfl⟩ := Option.map_eq_some_iff.mp hrecord
        have hdistinct := ih hold
        exact hdistinct
      · exact ih hrecord
  | @set store next changed name value h hset ih =>
    rw [(record?_set hset).2] at hrecord
    split at hrecord
    · obtain ⟨old, hold, rfl⟩ := Option.map_eq_some_iff.mp hrecord
      exact (Properties.isSet_set (ih hold) _ value).nodup (ih hold)
    · exact ih hrecord

namespace NodeTable

/-! ### Steps -/

namespace Writing

variable {α β : Type} (table : NodeTable)

/-- An answer is no change. -/
theorem result_pure (a : α) : (pure a : Writing α).result table = (.ok a, table) := rfl

/-- A failure elsewhere is the last step. -/
theorem result_ofResult (answer : Result α) (next : α → Writing β) :
    (ofResult answer >>= next).result table =
      match answer with
      | .ok a => (next a).result table
      | .error e => (.error e, table) := by
  cases answer <;> rfl

/-- A refusal is the last step. -/
theorem result_refuseIf (holds : Bool) (why : Refusal) (next : Unit → Writing β) :
    (refuseIf holds why >>= next).result table =
      if holds then (refuse why, table) else (next ()).result table := by
  cases holds <;> rfl

/-- What is read is no change. -/
theorem result_read (path : String) (next : Option Record → Writing β) :
    (read path >>= next).result table = (next (table.record? path)).result table := rfl

/-- A change is seen by all later steps. -/
theorem result_change (path : String) (f : Record → Record) (next : Unit → Writing β) :
    (Writing.change path f >>= next).result table = (next ()).result (table.change path f) := rfl

/-- A record that is put is seen by all later steps. -/
theorem result_put (path : String) (record : Record) (next : Unit → Writing β) :
    (Writing.put path record >>= next).result table = (next ()).result (table.put path record) :=
  rfl

end Writing

open Writing

/-- A node that is added in place is added to the table, and the table is left as it was if that is
refused. -/
theorem result_addInPlace (table : NodeTable) (parent name primaryType : String) :
    (addInPlace parent name primaryType).result table =
      match table.add parent name primaryType with
      | .ok (path, next) => (.ok path, next)
      | .error e => (.error e, table) := by
  simp only [addInPlace, result_refuseIf, result_ofResult, result_read, result_change, result_put,
    result_pure]
  rw [add]
  cases Store.isNodeName name with
  | false => rfl
  | true =>
    cases Path.normalize parent with
    | error e => rfl
    | ok base =>
      cases hfree : table.record? (Path.child base name) with
      | some old => simp [hfree, bind, Except.bind, refuse]
      | none =>
        cases hbase : table.record? base with
        | none => simp [hfree, hbase, bind, Except.bind, refuse]
        | some above => simp [hfree, hbase, bind, Except.bind, pure, Except.pure]

/-- A property that is set in place is set in the table, and the table is left as it was if that is
refused. -/
theorem result_setInPlace (table : NodeTable) (path name : String) (value : Value) :
    (setInPlace path name value).result table =
      match table.set path name value with
      | .ok next => (.ok (), next)
      | .error e => (.error e, table) := by
  simp only [setInPlace, result_refuseIf, result_ofResult, result_read]
  rw [set]
  cases Property.ofName name with
  | error e => rfl
  | ok property =>
    cases hself : property.isNode with
    | true => simp [hself, bind, Except.bind, refuse]
    | false =>
      cases table.record? path with
      | none => simp [hself, bind, Except.bind, refuse]
      | some old =>
        simp only [hself, Option.isNone_some, Bool.false_eq_true, if_false, bind, Except.bind, pure,
          Except.pure]
        rfl

/-! ### What is changed -/

/-- The paths of a table in document order, in however many steps they are visited, if there are
enough. -/
def ListsPaths (table : NodeTable) (order : List String) : Prop :=
  ∀ steps, table.count ≤ steps →
    (table.documentOrder? steps).map (·.map Record.path) = some order

/-- A table before and after a node was added below another one: there is one more record, which
has neither properties nor children, and the other node lists it last. -/
structure Gains (table next : NodeTable) (base path primaryType : String) : Prop where
  parent : (table.record? base).isSome
  fresh : table.record? path = none
  paths : next.paths = table.paths ++ [path]
  record? : ∀ other, next.record? other =
    if path = other then some ⟨path, ⟨primaryType, []⟩, []⟩
    else if base = other then (table.record? other).map fun r =>
      { r with children := r.children ++ [path] }
    else table.record? other
  order : ∃ order later, table.ListsPaths order ∧ next.ListsPaths later ∧
    PutBehind (Path.IsWithin · base) order path later

/-- A table before and after a property of a node was set: nothing else is changed. -/
structure Changes (table next : NodeTable) (path name : String) (value : Value) : Prop where
  paths : next.paths = table.paths
  record? : ∃ record properties, table.record? path = some record ∧
    Properties.IsSet name value record.entry.properties properties ∧
    ∀ other, next.record? other =
      if path = other then some { record with entry := { record.entry with properties } }
      else table.record? other
  order : ∃ order, table.ListsPaths order ∧ next.ListsPaths order

/-- A table lists the nodes of the store that it mirrors. -/
theorem Mirrors.listsPaths {table : NodeTable} {store : Store} (h : table.Mirrors store) :
    table.ListsPaths (store.nodes.map Node.path) := by
  intro steps hsteps
  have hcount : store.count = table.count := by
    rw [← h.inDocumentOrder.length, List.length_map, store.length_nodes]
  rw [h.documentOrder?_eq (hcount ▸ hsteps), Option.map_some, ← store.map_node_records,
    List.map_map]
  rfl

section Update

variable {table next : NodeTable} {store grown : Store} {name path : String}

/-- A node that is added to both a table and its store is all that the table gains. -/
theorem Mirrors.gains (h : table.Mirrors store) (hnext : next.Mirrors grown)
    {parent primaryType : String} (htable : table.add parent name primaryType = .ok (path, next))
    (hstore : store.add parent name primaryType = .ok (path, grown)) :
    ∃ base, Path.normalize parent = .ok base ∧ path = Path.child base name ∧
      table.Gains next base path primaryType := by
  have hwell := h.reachable.wellFormed
  obtain ⟨base, hbase, hpath, hadded⟩ := Store.added_of_add hwell hstore
  obtain ⟨base', hbase', -, hput⟩ := hwell.order_of_add hstore
  obtain rfl : base = base' := Except.ok.inj (hbase.symm.trans hbase')
  refine ⟨base, hbase, hpath, ?_, ?_, (paths_of_add htable).2, fun other => ?_, ?_⟩
  · rw [h.record?]
    exact hadded.found
  · rw [h.record?]
    exact hadded.fresh
  · rw [hnext.record?, h.record?]
    exact hadded.record? other
  · exact ⟨_, _, h.listsPaths, hnext.listsPaths, hput⟩

/-- A property that is set in both a table and its store is all that changes in the table. -/
theorem Mirrors.changes (h : table.Mirrors store) (hnext : next.Mirrors grown) {value : Value}
    (htable : table.set path name value = .ok next)
    (hstore : store.set path name value = .ok grown) :
    table.Changes next path (Property.storedName name) value := by
  obtain ⟨hfound, hrecord⟩ := Store.record?_set hstore
  obtain ⟨record, hold⟩ := Option.isSome_iff_exists.mp (Store.mem_paths.mp hfound)
  refine ⟨?_, ⟨record, _, (h.record? path).trans hold,
    Properties.isSet_set (h.reachable.nodup_properties hold) _ value, fun other => ?_⟩, ?_⟩
  · obtain ⟨f, rfl⟩ := set_cases htable
    exact paths_change _ _ _
  · rw [hnext.record?, h.record?, hrecord]
    split
    · next heq =>
      rw [← heq, hold]
      rfl
    · rfl
  · refine ⟨_, h.listsPaths, ?_⟩
    rw [← Store.order_of_set hstore]
    exact hnext.listsPaths

end Update

/-- After any run of updates a node that is added in place, or a property that is set in place,
leaves the table as it was if that is refused, and changes nothing else if it is not. The store is
updated alike: it refuses the same, and lists its nodes as the table does. -/
theorem local_of_run (updates : List Update) : ∃ answers table store,
    NodeTable.updates.run initial updates = (answers, table) ∧
    Store.updates.run .empty updates = (answers, store) ∧
    (∀ parent name primaryType,
      match store.add parent name primaryType with
      | .error e => (addInPlace parent name primaryType).result table = (.error e, table)
      | .ok (path, grown) => ∃ next base,
        (addInPlace parent name primaryType).result table = (.ok path, next) ∧
        Path.normalize parent = .ok base ∧ path = Path.child base name ∧
        table.Gains next base path primaryType ∧
        (∀ other, next.record? other = grown.record? other) ∧
        next.ListsPaths (grown.nodes.map Node.path)) ∧
    ∀ path name value,
      match store.set path name value with
      | .error e => (setInPlace path name value).result table = (.error e, table)
      | .ok changed => ∃ next,
        (setInPlace path name value).result table = (.ok (), next) ∧
        table.Changes next path (Property.storedName name) value ∧
        (∀ other, next.record? other = changed.record? other) ∧
        next.ListsPaths (changed.nodes.map Node.path) := by
  rcases htable : NodeTable.updates.run initial updates with ⟨answers, table⟩
  rcases hstore : Store.updates.run .empty updates with ⟨answers', store⟩
  obtain ⟨hanswers, h⟩ := Mirrors.alike.run mirrors_initial updates
  rw [htable, hstore] at hanswers h
  obtain rfl : answers = answers' := hanswers
  refine ⟨answers, table, store, rfl, rfl, fun parent name primaryType => ?_,
    fun path name value => ?_⟩
  · obtain ⟨⟨path, next⟩, ⟨path', grown⟩, htable, hstore, rfl, hnext⟩ | ⟨e, htable, hstore⟩ :=
      (Mirrors.addAlike h parent name primaryType).ok_or_error
    · obtain ⟨base, hbase, hpath, hgains⟩ := h.gains hnext htable hstore
      simp only [hstore, result_addInPlace, htable]
      exact ⟨next, base, rfl, hbase, hpath, hgains, hnext.record?, hnext.listsPaths⟩
    · simp only [hstore, result_addInPlace, htable]
  · obtain ⟨next, changed, htable, hstore, hnext⟩ | ⟨e, htable, hstore⟩ :=
      (Mirrors.setAlike h path name value).ok_or_error
    · simp only [hstore, result_setInPlace, htable]
      exact ⟨next, rfl, h.changes hnext htable hstore, hnext.record?, hnext.listsPaths⟩
    · simp only [hstore, result_setInPlace, htable]

-- A node comes behind all nodes of its parent and before the later siblings of that.
example :
    let table := (NodeTable.updates.run initial
      [.add "/" "a" unstructured, .add "/" "b" unstructured, .add "/a" "c" unstructured]).2
    let next := ((addInPlace "/a" "d" unstructured).result table).2
    (next.documentOrder? 5).map (·.map Record.path) =
      some ["/", "/a", "/a/c", "/a/d", "/b"] := by
  rfl

end NodeTable

end ContentQuery
