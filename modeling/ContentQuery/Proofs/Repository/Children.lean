import ContentQuery.Proofs.Repository.Growth
import ContentQuery.Proofs.Repository.Landing
import ContentQuery.Proofs.Repository.Ways

/-!
# Which nodes can be given children

A node is added below the normal form of a path. The paths of nodes are in normal form but for the
blanks that a name may end in. So a node can be given any child that it does not have, exactly if
its path does not end in a blank.
-/

namespace ContentQuery

namespace Path

/-- A path that a node may have: one that scopes can be made of, and that does not end as one for
every node below does. -/
structure IsPlain (path : String) : Prop extends IsScope path where
  notAll : ¬ everything <:+ path.toList

/-- The root is plain. -/
theorem isPlain_root : IsPlain root := ⟨⟨rfl, by decide, .inl rfl⟩, by decide⟩

/-- The text before the last slash is what is before a text without slashes. -/
theorem before_eq {path : String} {above name : List Char} (h : path.toList = above ++ '/' :: name)
    (hname : '/' ∉ name) : before path = above := by
  have hskip : (name.reverse ++ '/' :: above.reverse).dropWhile (· != '/') =
      '/' :: above.reverse := by
    rw [List.dropWhile_append_of_pos]
    · rfl
    · intro c hc
      simpa using fun heq : c = '/' => hname (heq ▸ List.mem_reverse.mp hc)
  rw [before, h, List.reverse_append, List.reverse_cons, List.append_assoc, List.singleton_append,
    hskip, List.drop_one, List.tail_cons, List.reverse_reverse]

/-- The characters of a child are those of its parent, which does not end in a slash unless it is
the root, a slash and those of its name. -/
theorem IsScope.toList_child {base : String} (h : IsScope base) (name : String) :
    ∃ above, (child base name).toList = above ++ '/' :: name.toList ∧
      above.getLast? ≠ some '/' ∧ '\x27' ∉ above ∧ ∀ c ∈ above.head?, c = '/' := by
  by_cases hroot : base = root
  · refine ⟨[], ?_, nofun, List.not_mem_nil, nofun⟩
    simp [child, isRoot, hroot]
  · refine ⟨base.toList, ?_, h.ending.resolve_left hroot, h.unquoted, ?_⟩
    · simp [child_of_ne_root hroot]
    · simp [h.absolute]

/-- The child of a node may have the path that it is given. -/
theorem IsScope.isPlain_child {base name : String} (h : IsScope base)
    (hname : Store.isNodeName name = true) : IsPlain (child base name) := by
  obtain ⟨hne, hslash⟩ := Store.isStep_of_isNodeName hname
  obtain ⟨above, htoList, hlast, hquote, hhead⟩ := h.toList_child name
  have hunquoted : '\x27' ∉ name.toList := by
    rw [Store.isNodeName, Bool.and_eq_true, List.all_eq_true] at hname
    intro hmem
    exact absurd (hname.2 _ hmem) (by decide)
  refine ⟨⟨?_, ?_, .inr ?_⟩, ?_⟩
  · rw [htoList]
    cases above with
    | nil => rfl
    | cons c rest => exact congrArg some (hhead c rfl)
  · rw [htoList, List.mem_append, List.mem_cons, not_or, not_or]
    exact ⟨hquote, by decide, hunquoted⟩
  · rw [htoList, List.getLast?_append_cons, List.getLast?_cons_of_ne_nil hne]
    exact fun hend => hslash (List.mem_of_getLast? hend)
  · rintro ⟨rest, hrest⟩
    have hends : (child base name).toList = (rest ++ ['/']) ++ '/' :: ['*'] := by
      rw [← hrest, List.append_assoc]
      rfl
    have hsame := (before_eq htoList hslash).symm.trans (before_eq hends (by decide))
    rw [hsame] at hlast
    exact hlast (by simp)

/-- A plain path is in normal form exactly if it does not end in a blank. -/
theorem IsPlain.normalize_eq_self_iff {path : String} (h : IsPlain path) :
    normalize path = .ok path ↔ path.toList.getLast?.any Text.isBlank = false := by
  rw [h.toIsScope.normalize_eq_self_iff, settled_iff, and_iff_left h.notAll]

end Path

namespace Store

variable {store next : Store} {path name : String}

/-- The root is the only node of the empty store. -/
theorem eq_root_of_mem_paths_empty (hpath : path ∈ empty.paths) : path = Path.root := by
  rw [mem_paths, ← NodeTable.mirrors_initial.record?, NodeTable.initial, NodeTable.record?] at hpath
  split at hpath
  · next heq => exact heq.symm
  · cases hpath

/-- Every node has a plain path. -/
theorem Reachable.isPlain (h : store.Reachable) (hpath : path ∈ store.paths) :
    Path.IsPlain path := by
  induction h generalizing path with
  | empty => exact eq_root_of_mem_paths_empty hpath ▸ Path.isPlain_root
  | @add store next parent name primaryType new h hadd ih =>
    obtain ⟨base, hbase, rfl, hadded⟩ := added_of_add h.wellFormed hadd
    obtain ⟨-, -, hname, -⟩ := add_cases hadd
    rw [hadded.paths_eq, Set.mem_insert_iff] at hpath
    rcases hpath with rfl | hold
    · exact (Path.isScope_of_normalize hbase).isPlain_child hname
    · exact ih hold
  | @set store next changed name value h hset ih =>
    rw [paths_of_set hset] at hpath
    exact ih hpath

/-- A node is listed by its parent and by no other node. -/
theorem WellFormed.mem_children_iff (h : store.WellFormed) (hpath : path ∈ store.paths)
    {other : String} {record : Record} (hrecord : store.record? other = some record) :
    path ∈ record.children ↔ NodeTable.isChild path other = true := by
  obtain ⟨node, hnode⟩ := Option.isSome_iff_exists.mp hpath
  have hmem : path ∈ store.nodes.map Node.path := by
    obtain rfl : node.path = path := by
      rw [node?] at hnode
      obtain ⟨entry, -, rfl⟩ := Option.map_eq_some_iff.mp hnode
      rfl
    exact List.mem_map_of_mem ((h.mem_nodes_iff node).mpr hnode)
  rw [← h.filter_isChild hrecord, List.mem_filter, and_iff_right hmem]

/-- What is added below the normal form of a path is a child of the node there, and of no other. -/
theorem mem_children_iff_of_add (h : store.Reachable) {parent primaryType : String}
    (hadd : store.add parent name primaryType = .ok (path, next)) {other : String} {record : Record}
    (hrecord : next.record? other = some record) :
    path ∈ record.children ↔ Path.normalize parent = .ok other := by
  obtain ⟨base, hbase, rfl, hadded⟩ := added_of_add h.wellFormed hadd
  obtain ⟨-, -, hname, -⟩ := add_cases hadd
  have hstep := isStep_of_isNodeName hname
  have hstored : Path.child base name ∈ next.paths := by
    rw [hadded.paths_eq]
    exact Set.mem_insert _ _
  rw [(h.add hadd).wellFormed.mem_children_iff hstored hrecord, NodeTable.isChild,
    Path.parent_child (Path.isScope_of_normalize hbase).ne_empty hstep, hbase]
  simp [Path.child_ne_root hstep]

/-- A child can be added where none is, if the path of its parent is in normal form. -/
theorem exists_add (hpath : path ∈ store.paths) (hnormal : Path.normalize path = .ok path)
    (hname : isNodeName name = true) (hfree : Path.child path name ∉ store.paths)
    (primaryType : String) :
    ∃ next, store.add path name primaryType = .ok (Path.child path name, next) := by
  rw [mem_paths, isSome_record?] at hpath hfree
  obtain ⟨way, hway⟩ : ∃ way, Path.names? path = some way := by
    rw [← Option.ne_none_iff_exists']
    intro hnone
    rw [find?, hnone] at hpath
    cases hpath
  refine ⟨{ store with children := store.children.addBelow name ⟨primaryType, []⟩ way }, ?_⟩
  have hfound : (store.find? path).isNone = false := by
    rw [← Option.not_isSome, hpath]
    rfl
  simp [add, hname, hnormal, hfree, hway, hfound, bind, Except.bind, pure, Except.pure]

/-- What is added at the path of a child is added below the very node, and the path of that is in
normal form. -/
theorem normalize_of_add_child (h : store.Reachable) (hpath : path ∈ store.paths)
    {primaryType : String}
    (hadd : store.add path name primaryType = .ok (Path.child path name, next)) :
    Path.normalize path = .ok path ∧
      store.Added next path (Path.child path name) primaryType := by
  obtain ⟨base, hbase, hsame, hadded⟩ := added_of_add h.wellFormed hadd
  obtain ⟨-, -, hname, -⟩ := add_cases hadd
  obtain rfl := (Path.child_inj (h.isPlain hpath).ne_empty
    (Path.isScope_of_normalize hbase).ne_empty (isStep_of_isNodeName hname)).mp hsame
  exact ⟨hbase, hadded⟩

/-- A node can be given a child that it does not have exactly if its path does not end in a blank:
then it is added at the path of the child, with its type and nothing else, and is a child of that
node and of no other. -/
theorem child_added_iff (h : store.Reachable) (hpath : path ∈ store.paths)
    (hname : isNodeName name = true) (hfree : Path.child path name ∉ store.paths)
    (primaryType : String) :
    ((∃ next, store.add path name primaryType = .ok (Path.child path name, next)) ↔
      path.toList.getLast?.any Text.isBlank = false) ∧
    ∀ next, store.add path name primaryType = .ok (Path.child path name, next) →
      next.record? (Path.child path name) = some ⟨Path.child path name, ⟨primaryType, []⟩, []⟩ ∧
      ∀ other record, next.record? other = some record →
        (Path.child path name ∈ record.children ↔ other = path) := by
  have hnormal := (h.isPlain hpath).normalize_eq_self_iff
  refine ⟨⟨fun ⟨next, hadd⟩ => ?_, fun hblank => ?_⟩, fun next hadd => ?_⟩
  · exact hnormal.mp (normalize_of_add_child h hpath hadd).1
  · exact exists_add hpath (hnormal.mpr hblank) hname hfree primaryType
  · obtain ⟨hself, hadded⟩ := normalize_of_add_child h hpath hadd
    refine ⟨by rw [hadded.record?, if_pos rfl], fun other record hrecord => ?_⟩
    rw [mem_children_iff_of_add h hadd hrecord, hself, Except.ok.injEq]
    exact eq_comm

/-- Below a node without children there can be one. -/
theorem child_added_single : ∃ next,
    (single "cq:Page").add "/a" "b " unstructured = .ok ("/a/b ", next) ∧
    next.record? "/a/b " = some ⟨"/a/b ", ⟨unstructured, []⟩, []⟩ ∧
    ∀ other record, next.record? other = some record →
      ("/a/b " ∈ record.children ↔ other = "/a") := by
  have hstored : ((single "cq:Page").node? "/a").isSome = true := by decide +kernel
  have hfree : ¬ ((single "cq:Page").node? (Path.child "/a" "b ")).isSome = true := by
    decide +kernel
  obtain ⟨hiff, hchild⟩ := child_added_iff (reachable_single "cq:Page") hstored
    (by decide +kernel) hfree unstructured
  obtain ⟨next, hadd⟩ := hiff.mpr (by decide +kernel)
  exact ⟨next, hadd, hchild next hadd⟩

/-- A node whose path ends in a blank is there and cannot be given a child: without the blank there
is no such parent, or another one. -/
theorem blank_end_refused :
    let store : Store := ⟨⟨unstructured, []⟩, .cons "a " ⟨unstructured, []⟩ .nil .nil⟩
    let other : Store := ⟨⟨unstructured, []⟩, .cons " " ⟨unstructured, []⟩ .nil .nil⟩
    isNodeName "b" = true ∧
    (empty.add "/" "a " unstructured = .ok ("/a ", store) ∧
      (store.node? "/a ").isSome ∧ store.node? "/a /b" = none ∧
      store.add "/a " "b" unstructured = .error (.invalidArgument (.noParent "/a"))) ∧
    empty.add "/" " " unstructured = .ok ("/ ", other) ∧
      (other.node? "/ ").isSome ∧ other.node? "/ /b" = none ∧
      (other.add "/ " "b" unstructured).map (·.1) = .ok "/b" := by
  refine ⟨?_, ⟨rfl, ?_, ?_, rfl⟩, rfl, ?_, ?_, rfl⟩ <;> decide +kernel

end Store

end ContentQuery
