import ContentQuery.Proofs.Error
import ContentQuery.Proofs.Path
import ContentQuery.Proofs.Repository.Tree
import ContentQuery.Repository.NodeTable
import Mathlib.Data.List.Nodup

/-!
# A table is a tree

The records of a table make up a tree: every node but the root is named below a node that is there
and lists it once. An update keeps this since a node is added to the list of its parent when it is
put into the table, and nothing is ever taken out of either.
-/

namespace ContentQuery

namespace NodeTable

variable {table next : NodeTable} {path base : String} {record : Record}

/-! ### Records -/

/-- What is put at a path is found there, and all else where it was. -/
theorem record?_put (table : NodeTable) (path : String) (record : Record) (other : String) :
    (table.put path record).record? other =
      if path = other then some record else table.record? other := by
  induction table with
  | nil => rfl
  | cons first rest ih =>
    obtain ⟨key, old⟩ := first
    rw [put]
    split
    · next heq =>
      subst heq
      rw [record?, record?]
      split <;> rfl
    · next hne =>
      rw [record?, record?, ih]
      split
      · next heq => rw [if_neg (heq ▸ Ne.symm hne)]
      · rfl

/-- What is changed at a path is changed there only. -/
theorem record?_change (table : NodeTable) (path : String) (f : Record → Record) (other : String) :
    (table.change path f).record? other =
      if path = other then (table.record? other).map f else table.record? other := by
  induction table with
  | nil => split <;> rfl
  | cons first rest ih =>
    obtain ⟨key, old⟩ := first
    rw [change]
    split
    · next heq =>
      subst heq
      rw [record?, record?]
      split <;> rfl
    · next hne =>
      rw [record?, record?, ih]
      by_cases heq : key = other
      · rw [if_pos heq, if_pos heq, if_neg (heq ▸ Ne.symm hne)]
      · rw [if_neg heq, if_neg heq]

/-- A record is found at the paths of a table. -/
theorem isSome_record?_iff : (table.record? path).isSome ↔ path ∈ table.paths := by
  induction table with
  | nil => simp [record?, paths]
  | cons first rest ih =>
    obtain ⟨key, old⟩ := first
    have hpaths : NodeTable.paths ((key, old) :: rest) = key :: NodeTable.paths rest := rfl
    rw [record?, hpaths, List.mem_cons, ← ih]
    split
    · next heq => simp [heq]
    · next hne => simp [Ne.symm hne]

/-- A path where a record is found is one of the table. -/
theorem mem_paths_of_record? (h : table.record? path = some record) : path ∈ table.paths :=
  isSome_record?_iff.mp (by rw [h]; rfl)

/-- A change of a record leaves the paths. -/
theorem paths_change (table : NodeTable) (path : String) (f : Record → Record) :
    (table.change path f).paths = table.paths := by
  induction table with
  | nil => rfl
  | cons first rest ih =>
    rw [change]
    split
    · rfl
    · exact congrArg (first.1 :: ·) ih

/-- What is put at a new path is behind all others. -/
theorem paths_put (h : path ∉ table.paths) (record : Record) :
    (table.put path record).paths = table.paths ++ [path] := by
  induction table with
  | nil => rfl
  | cons first rest ih =>
    obtain ⟨hfirst, hrest⟩ := not_or.mp (mt List.mem_cons.mpr h)
    rw [put, if_neg (Ne.symm hfirst)]
    exact congrArg (first.1 :: ·) (ih hrest)

/-! ### Updates -/

/-- Adding a node checks its name, finds its parent and finds nothing in its place. -/
theorem add_cases {parent name primaryType : String}
    (h : table.add parent name primaryType = .ok (path, next)) :
    ∃ base above, Path.IsStep name ∧ path = Path.child base name ∧ table.record? path = none ∧
      table.record? base = some above ∧
      next = (table.change base fun r => { r with children := r.children ++ [path] }).put path
        ⟨path, ⟨primaryType, []⟩, []⟩ := by
  rw [add] at h
  cases hname : Store.isNodeName name with
  | false => simp [hname] at h
  | true =>
    simp only [hname, Bool.not_true, Bool.false_eq_true, if_false] at h
    obtain ⟨base, -, h⟩ := Result.bind_eq_ok.mp h
    cases hfree : table.record? (Path.child base name) with
    | some old => simp [hfree] at h
    | none =>
      cases hbase : table.record? base with
      | none => simp [hfree, hbase] at h
      | some above =>
        simp only [hfree, hbase, Option.isSome_none, Option.isNone_some, Bool.false_eq_true,
          if_false] at h
        cases h
        exact ⟨base, above, Store.isStep_of_isNodeName hname, rfl, hfree, hbase, rfl⟩

/-- What is added comes behind all that was added before. -/
theorem paths_of_add {parent name primaryType : String}
    (h : table.add parent name primaryType = .ok (path, next)) :
    path ∉ table.paths ∧ next.paths = table.paths ++ [path] := by
  obtain ⟨base, above, -, -, hfree, -, rfl⟩ := add_cases h
  have hnew : path ∉ table.paths := by
    rw [← isSome_record?_iff, hfree]
    nofun
  refine ⟨hnew, ?_⟩
  rw [paths_put (by rwa [paths_change]), paths_change]

/-- Setting a property changes what is stored at a path. -/
theorem set_cases {name : String} {value : Value} (h : table.set path name value = .ok next) :
    ∃ f : Entry → Entry, next = table.change path fun r => { r with entry := f r.entry } := by
  rw [set] at h
  obtain ⟨property, -, h⟩ := Result.bind_eq_ok.mp h
  cases hself : property.isNode with
  | true => simp [hself] at h
  | false =>
    cases hfound : table.record? path with
    | none => simp [hself, hfound] at h
    | some old =>
      simp only [hself, hfound, Option.isNone_some, Bool.false_eq_true, if_false] at h
      cases h
      exact ⟨fun entry =>
        { entry with properties := Properties.set property.name value entry.properties }, rfl⟩

/-! ### The tree -/

/-- Whether a path is that of a child of the node at another one. -/
def isChild (path base : String) : Bool := path ≠ Path.root && Path.parent path = base

/-- A table whose records make up a tree. -/
structure IsTree (table : NodeTable) : Prop where
  /-- There is a root. -/
  root : (table.record? Path.root).isSome
  /-- Every record is at its own path. -/
  own : ∀ {path record}, table.record? path = some record → record.path = path
  /-- Every other path than that of the root is a name below the path of a record, which lists it
  once. -/
  parent : ∀ {path record}, table.record? path = some record → path ≠ Path.root →
    ∃ base name above, path = Path.child base name ∧ Path.IsStep name ∧
      table.record? base = some above ∧ above.children.count path = 1
  /-- Every path that is listed has a record. -/
  listed : ∀ {path record child}, table.record? path = some record → child ∈ record.children →
    (table.record? child).isSome

/-- What the updates keep of a table: paths are different and lead down from the root, and children
are listed in the order in which they were added. -/
structure Kept (table : NodeTable) : Prop where
  nodup : table.paths.Nodup
  root : Path.root ∈ table.paths
  own : ∀ {path record}, table.record? path = some record → record.path = path
  parent : ∀ {path}, path ∈ table.paths → path ≠ Path.root →
    ∃ base ∈ table.paths, ∃ name, Path.IsStep name ∧ path = Path.child base name
  children : ∀ {path record}, table.record? path = some record →
    record.children = table.paths.filter (isChild · path)

namespace Kept

/-- No path of a table is empty. -/
theorem ne_empty (h : table.Kept) (hpath : path ∈ table.paths) : path ≠ "" := by
  rintro rfl
  obtain ⟨base, -, name, hname, heq⟩ := h.parent hpath (by decide)
  have hlength := congrArg (·.toList.length) heq
  by_cases hroot : base = Path.root
  · simp [Path.child, Path.isRoot, hroot] at hlength
  · simp [Path.child_of_ne_root hroot] at hlength

/-- A child is a child of the node that it was added to, and of no other one. -/
theorem isChild_child (h : table.Kept) (hbase : base ∈ table.paths) {name : String}
    (hname : Path.IsStep name) (other : String) :
    isChild (Path.child base name) other = decide (base = other) := by
  rw [isChild, Path.parent_child (h.ne_empty hbase) hname]
  simp [Path.child_ne_root hname]

/-- The parent of what is in a table is in it. -/
theorem mem_of_isChild (h : table.Kept) (hpath : path ∈ table.paths) (hchild : isChild path base) :
    base ∈ table.paths := by
  obtain ⟨hne, hparent⟩ : path ≠ Path.root ∧ Path.parent path = base := by
    simpa [isChild] using hchild
  obtain ⟨above, habove, name, hname, rfl⟩ := h.parent hpath hne
  rwa [← hparent, Path.parent_child (h.ne_empty habove) hname]

/-- No path of a table is that of a child of a path that is new. -/
theorem filter_isChild_of_not_mem (h : table.Kept) (hnew : base ∉ table.paths) :
    table.paths.filter (isChild · base) = [] := by
  rw [List.filter_eq_nil_iff]
  exact fun child hchild hbelow => hnew (h.mem_of_isChild hchild hbelow)

/-- A table that the updates keep is a tree. -/
theorem isTree (h : table.Kept) : table.IsTree where
  root := isSome_record?_iff.mpr h.root
  own := h.own
  parent := by
    intro path record hrecord hne
    have hpath := mem_paths_of_record? hrecord
    obtain ⟨base, hbase, name, hname, rfl⟩ := h.parent hpath hne
    obtain ⟨above, habove⟩ := Option.isSome_iff_exists.mp (isSome_record?_iff.mpr hbase)
    refine ⟨base, name, above, rfl, hname, habove, ?_⟩
    have hchild := h.isChild_child hbase hname base
    rw [decide_eq_true rfl] at hchild
    rw [h.children habove]
    exact List.count_eq_one_of_mem (h.nodup.filter _) (List.mem_filter.mpr ⟨hpath, hchild⟩)
  listed := by
    intro path record child hrecord hchild
    rw [h.children hrecord] at hchild
    exact isSome_record?_iff.mpr (List.mem_of_mem_filter hchild)

/-- The table of the root alone. -/
theorem initial : NodeTable.initial.Kept where
  nodup := List.nodup_singleton _
  root := List.mem_cons_self
  own := by
    intro path record h
    rw [NodeTable.initial, record?] at h
    split at h
    · next heq =>
      cases h
      exact heq
    · cases h
  parent := by
    intro path hpath hne
    exact absurd (List.mem_singleton.mp hpath) hne
  children := by
    intro path record h
    rw [NodeTable.initial, record?] at h
    split at h
    · cases h
      rfl
    · cases h

/-- A node is added behind its siblings. -/
theorem add (h : table.Kept) {parent name primaryType : String}
    (hadd : table.add parent name primaryType = .ok (path, next)) : next.Kept := by
  obtain ⟨hnew, hpaths⟩ := paths_of_add hadd
  obtain ⟨base, above, hname, hpath, hfree, habove, rfl⟩ := add_cases hadd
  have hbase := mem_paths_of_record? habove
  have hparent (other : String) : isChild path other = decide (base = other) :=
    hpath ▸ h.isChild_child hbase hname other
  constructor
  · rw [hpaths, List.nodup_append]
    refine ⟨h.nodup, List.nodup_singleton path, fun a ha b hb => ?_⟩
    obtain rfl := List.mem_singleton.mp hb
    exact fun heq => hnew (heq ▸ ha)
  · rw [hpaths]
    exact List.mem_append_left _ h.root
  · intro other record hrecord
    rw [record?_put, record?_change] at hrecord
    split at hrecord
    · next heq =>
      cases hrecord
      exact heq
    · split at hrecord
      · obtain ⟨old, hold, rfl⟩ := Option.map_eq_some_iff.mp hrecord
        have hown := h.own hold
        exact hown
      · exact h.own hrecord
  · intro other hother hne
    rw [hpaths] at hother ⊢
    rcases List.mem_append.mp hother with hother | hother
    · obtain ⟨above, habove, hnamed⟩ := h.parent hother hne
      exact ⟨above, List.mem_append_left _ habove, hnamed⟩
    · obtain rfl := List.mem_singleton.mp hother
      exact ⟨base, List.mem_append_left _ hbase, name, hname, hpath⟩
  · intro other record hrecord
    rw [hpaths, List.filter_append, List.filter_singleton, hparent]
    rw [record?_put, record?_change] at hrecord
    split at hrecord
    · next heq =>
      -- Nothing was below a path that is new, and this path is not below itself.
      subst heq
      cases hrecord
      have hself : base ≠ path := fun heq => hnew (heq ▸ hbase)
      simp [h.filter_isChild_of_not_mem hnew, hself]
    · split at hrecord
      · next heq =>
        subst heq
        rw [habove] at hrecord
        cases hrecord
        simp [h.children habove]
      · next hne => simp [h.children hrecord, hne]

/-- A property is set and nothing else. -/
theorem set (h : table.Kept) {name : String} {value : Value}
    (hset : table.set path name value = .ok next) : next.Kept := by
  obtain ⟨f, rfl⟩ := set_cases hset
  -- A record that is found now has the path and the children of one that was found before.
  have hbefore {other : String} {record : Record}
      (hrecord : (table.change path fun r => { r with entry := f r.entry }).record? other =
        some record) :
      ∃ old, table.record? other = some old ∧ record.path = old.path ∧
        record.children = old.children := by
    rw [record?_change] at hrecord
    split at hrecord
    · obtain ⟨old, hold, rfl⟩ := Option.map_eq_some_iff.mp hrecord
      exact ⟨old, hold, rfl, rfl⟩
    · exact ⟨record, hrecord, rfl, rfl⟩
  constructor
  · rw [paths_change]
    exact h.nodup
  · rw [paths_change]
    exact h.root
  · intro other record hrecord
    obtain ⟨old, hold, hpath, -⟩ := hbefore hrecord
    rw [hpath, h.own hold]
  · intro other hother hne
    rw [paths_change] at hother ⊢
    exact h.parent hother hne
  · intro other record hrecord
    obtain ⟨old, hold, -, hchildren⟩ := hbefore hrecord
    rw [paths_change, hchildren, h.children hold]

end Kept

end NodeTable

end ContentQuery
