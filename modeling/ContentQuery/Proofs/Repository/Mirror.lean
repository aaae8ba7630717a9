import ContentQuery.Proofs.Repository.Branch
import ContentQuery.Proofs.Repository.NodeTable
import ContentQuery.Proofs.Repository.Update

/-!
# The table of a store

A table mirrors a store if it has the records of the branches of the store at their paths. The root
alone is mirrored, and a table and a store that are updated alike answer alike and go on to mirror
each other.
-/

namespace ContentQuery

/-- The record of a branch at a path. -/
def Record.ofBranch (path : String) (branch : Entry × List String) : Record :=
  ⟨path, branch.1, branch.2.map (Path.child path)⟩

/-- The record of what a store has at a path. -/
def Store.record? (store : Store) (path : String) : Option Record :=
  (Path.names? path).bind fun way => (store.branch? way).map (Record.ofBranch path)

namespace Store

variable {store : Store} {base : String} {way : List String}

/-- There is a record of what is found. -/
theorem isSome_record? (store : Store) (path : String) :
    (store.record? path).isSome = (store.find? path).isSome := by
  rw [find?_eq_branch?, record?]
  cases Path.names? path with
  | none => rfl
  | some way => simp

/-- The record at a path is that of its branch. -/
theorem record?_of_names? (store : Store) (hway : Path.names? base = some way) :
    store.record? base = (store.branch? way).map (Record.ofBranch base) := by
  rw [record?, hway]
  rfl

/-- There is a branch where something is found. -/
theorem isSome_branch? (store : Store) (hway : Path.names? base = some way) :
    (store.branch? way).isSome = (store.find? base).isSome := by
  rw [← isSome_record?, record?_of_names? store hway, Option.isSome_map]

/-- A node that is added has a record without children, and is the last child at its parent. -/
theorem record?_addBelow {name : String} (h : store.WellFormed)
    (hway : Path.names? base = some way) (hname : Path.IsStep name)
    (hbase : (store.find? base).isSome) (hfree : store.find? (Path.child base name) = none)
    (entry : Entry) (path : String) :
    record? { store with children := store.children.addBelow name entry way } path =
      if Path.child base name = path then some ⟨Path.child base name, entry, []⟩
      else if base = path then (store.record? path).map fun r =>
        { r with children := r.children ++ [Path.child base name] }
      else store.record? path := by
  have hchild := Path.names?_child hway (h.steps_of_find? hway hbase) hname
  have hparent := hbase
  rw [← isSome_branch? store hway] at hparent
  have hnew : store.branch? (way ++ [name]) = none := by
    rw [← Option.not_isSome_iff_eq_none, isSome_branch? store hchild, hfree]
    nofun
  have hbranch := branch?_addBelow hparent hnew entry
  split
  · next heq =>
    subst heq
    rw [record?_of_names? _ hchild, hbranch, if_pos rfl]
    rfl
  · next hne =>
    split
    · next heq =>
      subst heq
      rw [record?_of_names? _ hway, record?_of_names? _ hway, hbranch, if_neg (by simp), if_pos rfl]
      cases store.branch? way with
      | none => rfl
      | some branch => simp [Record.ofBranch]
    · next hother =>
      cases hnames : Path.names? path with
      | none => rw [record?, record?, hnames]; rfl
      | some names =>
        have hnotNew : names ≠ way ++ [name] := fun heq => hne <| by
          rw [← Path.ofNames_of_names? hnames, heq, Path.ofNames_of_names? hchild]
        have hnotParent : names ≠ way := fun heq => hother <| by
          rw [← Path.ofNames_of_names? hnames, heq, Path.ofNames_of_names? hway]
        rw [record?_of_names? _ hnames, record?_of_names? _ hnames, hbranch, if_neg hnotNew,
          if_neg hnotParent]

/-- A change of what is stored at a path is a change of the record there. -/
theorem record?_modify (hbase : (store.find? base).isSome) (change : Entry → Entry)
    (path : String) :
    (store.modify base change).record? path =
      if base = path then (store.record? path).map fun r => { r with entry := change r.entry }
      else store.record? path := by
  obtain ⟨way, hway⟩ : ∃ way, Path.names? base = some way := by
    rw [← Option.isSome_iff_exists]
    by_contra hnone
    rw [find?, Option.not_isSome_iff_eq_none.mp hnone] at hbase
    cases hbase
  have hbranch := branch?_modify store hway change
  split
  · next heq =>
    subst heq
    rw [record?_of_names? _ hway, record?_of_names? _ hway, hbranch, if_pos rfl, Option.map_map,
      Option.map_map]
    rfl
  · next hother =>
    cases hnames : Path.names? path with
    | none => rw [record?, record?, hnames]; rfl
    | some names =>
      have hnotThere : names ≠ way := fun heq => hother <| by
        rw [← Path.ofNames_of_names? hnames, heq, Path.ofNames_of_names? hway]
      rw [record?_of_names? _ hnames, record?_of_names? _ hnames, hbranch, if_neg hnotThere]

end Store

namespace NodeTable

/-- A table with the records of a store, where both are kept by updates. -/
structure Mirrors (table : NodeTable) (store : Store) : Prop where
  kept : table.Kept
  reachable : store.Reachable
  record? : ∀ path, table.record? path = store.record? path

variable {table : NodeTable} {store : Store}

/-- The root alone is mirrored. -/
theorem mirrors_initial : initial.Mirrors .empty where
  kept := .initial
  reachable := .empty
  record? := by
    intro path
    rw [initial, NodeTable.record?, Store.record?]
    split
    · next heq =>
      rw [Path.names?_eq_nil_iff.mpr heq.symm, ← heq]
      rfl
    · next hne =>
      cases hway : Path.names? path with
      | none => rfl
      | some way =>
        cases way with
        | nil => exact absurd (Path.names?_eq_nil_iff.mp hway).symm hne
        | cons first more => rfl

namespace Mirrors

/-- Something is found where there is a record. -/
theorem isSome_record? (h : table.Mirrors store) (path : String) :
    (table.record? path).isSome = (store.find? path).isSome := by
  rw [h.record?, store.isSome_record?]

/-- A node that is added to both has the same record in both. -/
theorem record?_add (h : table.Mirrors store) (parent name primaryType : String) :
    Result.Related (fun a b => a.1 = b.1 ∧ ∀ path, a.2.record? path = b.2.record? path)
      (table.add parent name primaryType) (store.add parent name primaryType) := by
  rw [NodeTable.add, Store.add]
  cases hname : Store.isNodeName name with
  | false => exact .error _
  | true =>
    simp only [Bool.not_true, Bool.false_eq_true, if_false]
    refine .bind (Path.normalize parent) fun base _ => ?_
    simp only [← Option.not_isSome, h.isSome_record?]
    cases hfree : store.find? (Path.child base name) with
    | some old => exact .error _
    | none =>
      cases hbase : (store.find? base).isSome with
      | false => cases Path.names? base <;> exact .error _
      | true =>
        cases hway : Path.names? base with
        | none => simp [Store.find?, hway] at hbase
        | some way =>
          refine .ok ⟨rfl, fun path => ?_⟩
          rw [Store.record?_addBelow h.reachable.wellFormed hway (Store.isStep_of_isNodeName hname)
            hbase hfree, record?_put, record?_change, h.record?]

/-- A property that is set in both is set in the same record of both. -/
theorem record?_set (h : table.Mirrors store) (path name : String) (value : Value) :
    Result.Related (fun a b => ∀ path, a.record? path = b.record? path)
      (table.set path name value) (store.set path name value) := by
  rw [NodeTable.set, Store.set]
  refine .bind (Property.ofName name) fun property _ => ?_
  cases property.isNode with
  | true => exact .error _
  | false =>
    simp only [← Option.not_isSome, h.isSome_record?]
    cases hfound : (store.find? path).isSome with
    | false => exact .error _
    | true =>
      refine .ok fun other => ?_
      rw [Store.record?_modify hfound, record?_change, h.record?]

/-- A table and its store add nodes alike. -/
theorem addAlike : AddAlike Mirrors NodeTable.add Store.add := by
  intro table store h parent name primaryType
  have hrelated := h.record?_add parent name primaryType
  obtain ⟨⟨path, next⟩, ⟨path', next'⟩, htable, hstore, hpath, hrecord⟩ | ⟨e, htable, hstore⟩ :=
    hrelated.ok_or_error
  · rw [htable, hstore]
    exact .ok ⟨hpath, h.kept.add htable, h.reachable.add hstore, hrecord⟩
  · rw [htable, hstore]
    exact .error e

/-- A table and its store set properties alike. -/
theorem setAlike : SetAlike Mirrors NodeTable.set Store.set := by
  intro table store h path name value
  have hrelated := h.record?_set path name value
  obtain ⟨next, next', htable, hstore, hrecord⟩ | ⟨e, htable, hstore⟩ := hrelated.ok_or_error
  · rw [htable, hstore]
    exact .ok ⟨h.kept.set htable, h.reachable.set hstore, hrecord⟩
  · rw [htable, hstore]
    exact .error e

/-- A table and its store are updated alike. -/
theorem alike : Updates.Alike Mirrors NodeTable.updates Store.updates where
  add := addAlike
  set := setAlike
  load h specs := Listing.load_alike addAlike setAlike h specs

end Mirrors

end NodeTable

end ContentQuery
