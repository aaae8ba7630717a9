import ContentQuery.Proofs.Repository.Mirror
import Mathlib.Data.Set.Insert

/-!
# How stores grow

Updates keep the nodes of a store, with their types and below their parents. A node that is added
is the only new one and changes no property; a property that is set changes no other one.
-/

namespace ContentQuery

/-! ### Properties -/

/-- The name that a property is stored under: the given one without the mark of an attribute. -/
def Property.storedName (name : String) : String := String.ofList (bareName name.toList)

/-- The property with a name that is not the node itself is stored under that name. -/
theorem Property.name_of_ofName {name : String} {property : Property}
    (h : ofName name = .ok property) (hself : property.isNode = false) :
    property.name = storedName name := by
  rw [ofName] at h
  split at h
  · cases h
  · split at h
    · cases h
      cases hself
    · split at h
      · cases h
      · cases h
        rfl

namespace Properties

/-- A name that is set has the value, and the others keep theirs. -/
theorem get?_set (name other : String) (value : Value) (properties : Properties) :
    get? other (set name value properties) =
      if name = other then some value else get? other properties := by
  induction properties with
  | nil => rfl
  | cons property rest ih =>
    obtain ⟨first, old⟩ := property
    rw [set]
    split
    · next heq =>
      subst heq
      rw [get?, get?]
      split <;> rfl
    · next hne =>
      rw [get?, get?, ih]
      split
      · next heq => rw [if_neg (heq ▸ Ne.symm hne)]
      · rfl

end Properties

namespace Store

/-! ### Single updates -/

/-- The paths that there are nodes at. -/
def paths (store : Store) : Set String := {path | (store.node? path).isSome}

/-- The value of a property of the node at a path. -/
def value? (store : Store) (path name : String) : Option Value :=
  (store.node? path).bind fun n => n.property? name

/-- The node at a path is what its record has. -/
theorem node?_eq_record? (store : Store) (path : String) :
    store.node? path = (store.record? path).map fun r => ⟨path, r.entry⟩ := by
  rw [node?, find?_eq_branch?, record?]
  cases Path.names? path with
  | none => rfl
  | some way => cases hbranch : store.branch? way <;> simp [hbranch, Record.ofBranch]

/-- There is a node at a path if there is a record of it. -/
theorem mem_paths {store : Store} {path : String} :
    path ∈ store.paths ↔ (store.record? path).isSome := by
  have hnode : (store.node? path).isSome = (store.record? path).isSome := by
    rw [node?_eq_record?, Option.isSome_map]
  exact iff_of_eq (congrArg (· = true) hnode)

/-- The value of a property is in the record of its node. -/
theorem value?_eq_record? (store : Store) (path name : String) :
    store.value? path name =
      (store.record? path).bind fun r => Properties.get? name r.entry.properties := by
  rw [value?, node?_eq_record?]
  cases store.record? path <;> rfl

/-- Whatever a store has, another one has it with the same type and below the same parent. -/
def GrowsTo (store next : Store) : Prop :=
  ∀ path r, store.record? path = some r → ∃ r', next.record? path = some r' ∧
    r'.entry.primaryType = r.entry.primaryType ∧ ∀ child ∈ r.children, child ∈ r'.children

/-- There is a node of a type at a path, and it is a child of what is at the path without the last
name. -/
def HasNode (store : Store) (path primaryType : String) : Prop :=
  ∃ r above, store.record? path = some r ∧ r.entry.primaryType = primaryType ∧
    store.record? (Path.parent path) = some above ∧ path ∈ above.children

variable {store next last : Store} {path name : String}

/-- A store grows to itself. -/
theorem GrowsTo.refl (store : Store) : store.GrowsTo store :=
  fun _ r hr => ⟨r, hr, rfl, fun _ => id⟩

/-- What grows twice grows. -/
theorem GrowsTo.trans (h : store.GrowsTo next) (hnext : next.GrowsTo last) :
    store.GrowsTo last := by
  intro path r hr
  obtain ⟨s, hs, htype, hchildren⟩ := h path r hr
  obtain ⟨t, ht, hlater, hmore⟩ := hnext path s hs
  exact ⟨t, ht, hlater.trans htype, fun child hchild => hmore child (hchildren child hchild)⟩

/-- What grows keeps its nodes. -/
theorem GrowsTo.hasNode (h : store.GrowsTo next) {primaryType : String}
    (hnode : store.HasNode path primaryType) : next.HasNode path primaryType := by
  obtain ⟨r, above, hr, htype, habove, hchild⟩ := hnode
  obtain ⟨r', hr', htype', -⟩ := h path r hr
  obtain ⟨above', habove', -, hchildren⟩ := h _ above habove
  exact ⟨r', above', hr', htype'.trans htype, habove', hchildren path hchild⟩

/-- What a store is after a node was added. -/
structure Added (store next : Store) (base path primaryType : String) : Prop where
  found : (store.record? base).isSome
  fresh : store.record? path = none
  record? : ∀ other, next.record? other =
    if path = other then some ⟨path, ⟨primaryType, []⟩, []⟩
    else if base = other then (store.record? other).map fun r =>
      { r with children := r.children ++ [path] }
    else store.record? other

/-- A node is added below the normal form of its parent. -/
theorem added_of_add {parent primaryType : String} (h : store.WellFormed)
    (hadd : store.add parent name primaryType = .ok (path, next)) :
    ∃ base, Path.normalize parent = .ok base ∧ path = Path.child base name ∧
      store.Added next base path primaryType := by
  obtain ⟨base, way, hname, hbase, hway, hparent, hfree, rfl, rfl⟩ := add_cases hadd
  refine ⟨base, hbase, rfl, ?_, ?_, fun other => ?_⟩
  · rwa [isSome_record?]
  · rw [← Option.not_isSome_iff_eq_none, isSome_record?, hfree]
    nofun
  · exact record?_addBelow h hway (isStep_of_isNodeName hname) hparent hfree _ other

namespace Added

variable {base primaryType : String} (h : store.Added next base path primaryType)

include h

/-- A store grows by an added node. -/
theorem growsTo : store.GrowsTo next := by
  intro other r hr
  have hne : path ≠ other := by
    rintro rfl
    rw [h.fresh] at hr
    cases hr
  rw [h.record?, if_neg hne, hr]
  split
  · exact ⟨_, rfl, rfl, fun child hchild => List.mem_append_left _ hchild⟩
  · exact ⟨r, rfl, rfl, fun _ => id⟩

/-- The path of an added node is new, and no other one is. -/
theorem paths_eq : next.paths = insert path store.paths := by
  ext other
  rw [Set.mem_insert_iff, mem_paths, mem_paths, h.record?]
  split
  · next heq => simp [heq]
  · next hne =>
    rw [or_iff_right (Ne.symm hne)]
    split <;> simp

/-- No property has another value after a node was added. -/
theorem value?_eq (other name : String) : next.value? other name = store.value? other name := by
  rw [value?_eq_record?, value?_eq_record?, h.record?]
  split
  · next heq =>
    rw [← heq, h.fresh]
    rfl
  · split
    · cases store.record? other <;> rfl
    · rfl

/-- An added node is there, with its type and below its parent. -/
theorem hasNode (hbase : base = Path.parent path) (hne : base ≠ path) :
    next.HasNode path primaryType := by
  obtain ⟨above, habove⟩ := Option.isSome_iff_exists.mp h.found
  refine ⟨⟨path, ⟨primaryType, []⟩, []⟩, { above with children := above.children ++ [path] }, ?_,
    rfl, ?_, by simp⟩
  · rw [h.record?, if_pos rfl]
  · rw [← hbase, h.record?, if_neg (Ne.symm hne), if_pos rfl, habove]
    rfl

end Added

/-- A property is set in the record of its node. -/
theorem record?_set {value : Value} (h : store.set path name value = .ok next) :
    path ∈ store.paths ∧ ∀ other, next.record? other =
      if path = other then (store.record? other).map fun r =>
        { r with entry := { r.entry with
          properties := Properties.set (Property.storedName name) value r.entry.properties } }
      else store.record? other := by
  obtain ⟨property, hproperty, hself, hfound, rfl⟩ := set_cases h
  rw [Property.name_of_ofName hproperty hself]
  refine ⟨?_, fun other => record?_modify hfound _ other⟩
  rwa [mem_paths, isSome_record?]

/-- A store grows by a property that is set. -/
theorem growsTo_of_set {value : Value} (h : store.set path name value = .ok next) :
    store.GrowsTo next := by
  intro other r hr
  rw [(record?_set h).2, hr]
  split
  · exact ⟨_, rfl, rfl, fun _ => id⟩
  · exact ⟨r, rfl, rfl, fun _ => id⟩

/-- No path is new after a property was set. -/
theorem paths_of_set {value : Value} (h : store.set path name value = .ok next) :
    next.paths = store.paths := by
  ext other
  rw [mem_paths, mem_paths, (record?_set h).2]
  split <;> simp

/-- A property that is set has the value, and the others keep theirs. -/
theorem value?_of_set {value : Value} (h : store.set path name value = .ok next)
    (other property : String) :
    next.value? other property =
      if path = other ∧ Property.storedName name = property then some value
      else store.value? other property := by
  obtain ⟨hfound, hrecord⟩ := record?_set h
  rw [value?_eq_record?, value?_eq_record?, hrecord]
  by_cases hpath : path = other
  · subst hpath
    obtain ⟨r, hr⟩ := Option.isSome_iff_exists.mp (mem_paths.mp hfound)
    simp [hr, Properties.get?_set]
  · simp [hpath]

end Store

end ContentQuery
