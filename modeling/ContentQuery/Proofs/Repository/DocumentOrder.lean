import ContentQuery.Proofs.Repository.Ways

/-!
# The document order of a table

The records of a table that mirrors a store are visited as the nodes of the store are listed: each
of them once and in as many steps as there are, the root first, every node right before all nodes
below it, and siblings in the order in which they were added.
-/

namespace ContentQuery

/-- The node of a record. -/
def Record.node (record : Record) : Node := ⟨record.path, record.entry⟩

/-- The records of a forest in document order, given the path of their parent. -/
def Forest.records (base : String) : Forest → List Record
  | nil => []
  | cons name entry children siblings =>
    .ofBranch (base ++ "/" ++ name) (entry, children.names) ::
      (records (base ++ "/" ++ name) children ++ records base siblings)

/-- The records of a store in document order. -/
def Store.records (store : Store) : List Record :=
  .ofBranch Path.root (store.root, store.children.names) :: store.children.records ""

/-- The node of the record at a path is the node there. -/
theorem Store.map_node_record? (store : Store) (path : String) :
    (store.record? path).map Record.node = store.node? path := by
  rw [record?, node?, find?_eq_branch?]
  cases Path.names? path with
  | none => rfl
  | some way =>
    rw [Option.bind_some, Option.bind_some, Option.map_map, Option.map_map]
    rfl

/-- The nodes of the records of a forest are those of the forest. -/
theorem Forest.map_node_records (forest : Forest) (base : String) :
    (forest.records base).map Record.node = forest.nodes base := by
  induction forest generalizing base with
  | nil => rfl
  | cons name entry children siblings ihChildren ihSiblings =>
    rw [records, nodes, List.map_cons, List.map_append, ihChildren, ihSiblings]
    rfl

/-- The nodes of the records of a store are those of the store. -/
theorem Store.map_node_records (store : Store) : store.records.map Record.node = store.nodes :=
  congrArg (_ :: ·) (store.children.map_node_records "")

/-- A forest has as many nodes as it lists. -/
theorem Forest.length_nodes (forest : Forest) (base : String) :
    (forest.nodes base).length = forest.count := by
  induction forest generalizing base with
  | nil => rfl
  | cons name entry children siblings ihChildren ihSiblings =>
    rw [nodes, count, List.length_cons, List.length_append, ihChildren, ihSiblings]
    omega

/-- A store has as many nodes as it lists. -/
theorem Store.length_nodes (store : Store) : store.nodes.length = store.count := by
  rw [nodes, count, List.length_cons, Forest.length_nodes, Nat.add_comm]

namespace NodeTable

/-- A list of the paths of a table in document order. -/
structure InDocumentOrder (table : NodeTable) (order : List String) : Prop where
  /-- Every path with a record is listed. -/
  mem_iff : ∀ path, path ∈ order ↔ (table.record? path).isSome
  /-- No path is listed twice. -/
  nodup : order.Nodup
  /-- There are as many paths as records. -/
  length : order.length = table.count
  /-- The root is the first one. -/
  root : order.head? = some Path.root
  /-- Behind any other path come all paths below it. -/
  block : ∀ path ∈ order, path ≠ Path.root →
    ∃ before after, order = before ++ path :: order.filter (Path.isBelow · path) ++ after
  /-- Siblings come in the order in which they were added. -/
  siblings : ∀ path ∈ order,
    order.filter (isChild · path) = table.paths.filter (isChild · path)

variable {table : NodeTable} {store : Store}

/-- Where the table has the records of a forest, its trees are visited one after another and each
of them down to its leaves. -/
theorem visit?_forest {forest : Forest} (h : forest.WellFormed) (base : String)
    (hrecord : ∀ way branch, forest.branch? way = some branch →
      table.record? (Path.along base way) = some (.ofBranch (Path.along base way) branch))
    (rest : List String) (steps : ℕ) :
    table.visit? (forest.count + steps) (forest.names.map (base ++ "/" ++ ·) ++ rest) =
      (table.visit? steps rest).map (forest.records base ++ ·) := by
  induction h generalizing base rest steps with
  | nil => simp [Forest.count, Forest.names, Forest.records]
  | @cons name entry children siblings legal fresh below beside ihBelow ihBeside =>
    have hname := Store.isStep_of_isNodeName legal
    have hself : table.record? (base ++ "/" ++ name) =
        some (.ofBranch (base ++ "/" ++ name) (entry, children.names)) :=
      hrecord [name] (entry, children.names) (by simp [Forest.branch?])
    have hchildren : (Record.ofBranch (base ++ "/" ++ name) (entry, children.names)).children =
        children.names.map (base ++ "/" ++ name ++ "/" ++ ·) :=
      List.map_congr_left fun child _ =>
        Path.child_of_ne_root (Path.append_name_ne_root hname base) child
    have hbelow := ihBelow (base ++ "/" ++ name) fun way branch hbranch =>
      hrecord (name :: way) branch (Forest.branch?_below siblings hbranch)
    have hbeside := ihBeside base fun way branch hbranch =>
      hrecord way branch (Forest.branch?_beside entry children fresh hbranch)
    have hsteps : 1 + children.count + siblings.count + steps =
        children.count + (siblings.count + steps) + 1 := by omega
    rw [Forest.count, Forest.names, Forest.records, hsteps, List.map_cons, List.cons_append, visit?,
      hself]
    simp only [hchildren]
    rw [hbelow, hbeside, Option.map_map, Option.map_map]
    congr 1
    funext later
    simp

/-- Every record that is visited is one of the table. -/
theorem exists_record?_of_visit? {steps : ℕ} {stack : List String} {order : List Record}
    (h : table.visit? steps stack = some order) {record : Record} (hrecord : record ∈ order) :
    ∃ path, table.record? path = some record := by
  induction steps generalizing stack order with
  | zero =>
    cases stack with
    | nil =>
      cases h
      cases hrecord
    | cons path rest => cases h
  | succ steps ih =>
    cases stack with
    | nil =>
      cases h
      cases hrecord
    | cons path rest =>
      rw [visit?] at h
      split at h
      · next found hfound =>
        obtain ⟨later, hlater, rfl⟩ := Option.map_eq_some_iff.mp h
        rcases List.mem_cons.mp hrecord with rfl | hrecord
        · exact ⟨path, hfound⟩
        · exact ih hlater hrecord
      · exact ih h hrecord

namespace Mirrors

/-- A table is visited as its store is listed. -/
theorem documentOrder?_eq (h : table.Mirrors store) {steps : ℕ} (hsteps : store.count ≤ steps) :
    table.documentOrder? steps = some store.records := by
  have hwell := h.reachable.wellFormed
  have hroot : table.record? Path.root =
      some (.ofBranch Path.root (store.root, store.children.names)) := by
    rw [h.record?, store.record?_of_names? (Path.names?_eq_nil_iff.mpr rfl)]
    rfl
  have hbelow : ∀ way branch, store.children.branch? way = some branch →
      table.record? (Path.along "" way) = some (.ofBranch (Path.along "" way) branch) := by
    intro way branch hbranch
    cases way with
    | nil => simp at hbranch
    | cons first more =>
      have hfound : store.branch? (first :: more) = some branch := hbranch
      have hway := hwell.steps_of_branch? (by rw [hfound]; rfl)
      rw [h.record?, store.record?_of_names? (Path.names?_along hway (List.cons_ne_nil _ _)),
        hfound]
      rfl
  have hchildren : (Record.ofBranch Path.root (store.root, store.children.names)).children =
      store.children.names.map ("" ++ "/" ++ ·) :=
    List.map_congr_left fun child _ => by simp [Path.child, Path.isRoot]
  obtain ⟨more, rfl⟩ := Nat.exists_eq_add_of_le hsteps
  have hcount : store.count + more = store.children.count + more + 1 := by
    rw [Store.count]
    omega
  have hvisit := visit?_forest hwell "" hbelow [] more
  rw [documentOrder?, hcount, visit?, hroot]
  simp only [hchildren]
  rw [hvisit]
  cases more <;> simp [visit?, Store.records]

/-- A table that mirrors a store lists its paths in the order of the nodes of the store. -/
theorem inDocumentOrder (h : table.Mirrors store) :
    table.InDocumentOrder (store.nodes.map Node.path) := by
  have hwell := h.reachable.wellFormed
  have hmem : ∀ path, path ∈ store.nodes.map Node.path ↔ (table.record? path).isSome := by
    intro path
    rw [h.isSome_record?, List.mem_map]
    constructor
    · rintro ⟨n, hn, rfl⟩
      rw [(store.node?_eq_some_iff n).mp ((hwell.mem_nodes_iff n).mp hn)]
      rfl
    · intro hfound
      obtain ⟨entry, hentry⟩ := Option.isSome_iff_exists.mp hfound
      refine ⟨⟨path, entry⟩, (hwell.mem_nodes_iff _).mpr ?_, rfl⟩
      exact (store.node?_eq_some_iff ⟨path, entry⟩).mpr hentry
  refine ⟨hmem, hwell.nodup_paths, ?_, rfl, fun path => hwell.exists_block, ?_⟩
  · have hperm : (store.nodes.map Node.path).Perm table.paths := by
      rw [List.perm_ext_iff_of_nodup hwell.nodup_paths h.kept.nodup]
      exact fun path => (hmem path).trans isSome_record?_iff
    rw [hperm.length_eq, paths, List.length_map]
    rfl
  · intro path hpath
    obtain ⟨record, hrecord⟩ := Option.isSome_iff_exists.mp ((hmem path).mp hpath)
    rw [← h.kept.children hrecord]
    rw [h.record?] at hrecord
    exact hwell.filter_isChild hrecord

end Mirrors

/-- The table and the store after any run of updates. They have given the same answers, the table is
a tree that has its paths in the order in which they were added, and its records are the nodes of
the store. They are visited within as many steps as there are records, in document order, which is
the order in which the store lists its nodes. -/
theorem tree_of_run (updates : List Update) : ∃ answers table store,
    NodeTable.updates.run initial updates = (answers, table) ∧
    Store.updates.run .empty updates = (answers, store) ∧
    table.IsTree ∧
    (∀ {parent name primaryType path next}, table.add parent name primaryType = .ok (path, next) →
      next.paths = table.paths ++ [path]) ∧
    table.count = store.count ∧
    (∀ path, (table.record? path).map Record.node = store.node? path) ∧
    ∃ order : List Record,
      (∀ steps, table.count ≤ steps → table.documentOrder? steps = some order) ∧
      (∀ record ∈ order, table.record? record.path = some record) ∧
      table.InDocumentOrder (order.map Record.path) ∧
      order.map Record.node = store.nodes := by
  rcases htable : NodeTable.updates.run initial updates with ⟨answers, table⟩
  rcases hstore : Store.updates.run .empty updates with ⟨answers', store⟩
  obtain ⟨hanswers, h⟩ := Mirrors.alike.run mirrors_initial updates
  rw [htable, hstore] at hanswers h
  obtain rfl : answers = answers' := hanswers
  have hnodes : store.records.map Record.node = store.nodes := store.map_node_records
  have hpaths : store.records.map Record.path = store.nodes.map Node.path := by
    rw [← hnodes, List.map_map]
    rfl
  have horder := h.inDocumentOrder
  have hcount : store.count = table.count := by
    rw [← horder.length, List.length_map, store.length_nodes]
  have hvisit (steps : ℕ) (hsteps : table.count ≤ steps) :
      table.documentOrder? steps = some store.records :=
    h.documentOrder?_eq (hcount ▸ hsteps)
  refine ⟨answers, table, store, rfl, rfl, h.kept.isTree, fun hadd => (paths_of_add hadd).2,
    hcount.symm, fun path => ?_,
    store.records, hvisit, ?_, ?_, hnodes⟩
  · rw [h.record?, store.map_node_record?]
  · intro record hrecord
    obtain ⟨path, hpath⟩ := exists_record?_of_visit? (hvisit _ (Nat.le_refl _)) hrecord
    rwa [h.kept.own hpath]
  · rwa [hpaths]

-- A child comes before the later siblings of its parent, and an update that is refused is no end.
example : ((NodeTable.updates.run initial [.add "/" "a" unstructured, .add "/" "b" unstructured,
    .add "/c" "d" unstructured, .add "/a" "e" unstructured]).2.documentOrder? 4).map
      (·.map Record.path) = some ["/", "/a", "/a/e", "/b"] := by
  rfl

end NodeTable

end ContentQuery
