import ContentQuery.Proofs.Error
import ContentQuery.Proofs.Path
import ContentQuery.Proofs.Repository.Reachable
import Mathlib.Data.List.Nodup

/-!
# The tree of a store

In the tree of a store siblings have different names, and every name is a step of a path. Every
update keeps it so. The nodes in document order are then the nodes that paths lead to, each of them
once.
-/

namespace ContentQuery

/-- The names of nodes are steps of paths. -/
theorem Store.isStep_of_isNodeName {name : String} (h : isNodeName name = true) :
    Path.IsStep name := by
  rw [isNodeName, Bool.and_eq_true, List.all_eq_true] at h
  obtain ⟨hne, hlegal⟩ := h
  refine ⟨by simpa using hne, fun hslash => ?_⟩
  have := hlegal '/' hslash
  simp [reservedInName] at this

namespace Forest

/-- The names of the trees of a forest. -/
def names : Forest → List String
  | nil => []
  | cons name _ _ siblings => name :: siblings.names

/-- A forest in which siblings have different names, which may all be names of nodes. -/
inductive WellFormed : Forest → Prop
  | nil : WellFormed nil
  | cons {name : String} {entry : Entry} {children siblings : Forest}
    (legal : Store.isNodeName name = true) (fresh : name ∉ siblings.names)
    (below : WellFormed children) (beside : WellFormed siblings) :
    WellFormed (cons name entry children siblings)

/-- What is stored, in document order, with the names that lead there. -/
def places : Forest → List (List String × Entry)
  | nil => []
  | cons name entry children siblings =>
    ([name], entry) :: (children.places.map (fun place => (name :: place.1, place.2)) ++
      siblings.places)

/-- The nodes of a forest are at its places. -/
theorem nodes_eq (forest : Forest) (base : String) :
    forest.nodes base = forest.places.map fun place => ⟨Path.along base place.1, place.2⟩ := by
  induction forest generalizing base with
  | nil => rfl
  | cons name entry children siblings ihChildren ihSiblings =>
    rw [nodes, places, ihChildren, ihSiblings, List.map_cons, List.map_append, List.map_map]
    rfl

/-- The first name on the way to a place is that of a tree. -/
theorem exists_of_mem_places {forest : Forest} {place : List String × Entry}
    (h : place ∈ forest.places) : ∃ first more, place.1 = first :: more ∧ first ∈ forest.names := by
  induction forest with
  | nil => cases h
  | cons name entry children siblings _ ihSiblings =>
    rw [places, List.mem_cons, List.mem_append, List.mem_map] at h
    rcases h with rfl | ⟨below, -, rfl⟩ | hbeside
    · exact ⟨name, [], rfl, List.mem_cons_self⟩
    · exact ⟨name, below.1, rfl, List.mem_cons_self⟩
    · obtain ⟨first, more, hplace, hfirst⟩ := ihSiblings hbeside
      exact ⟨first, more, hplace, List.mem_cons_of_mem name hfirst⟩

/-- No names lead through a tree that is not there. -/
theorem find?_of_not_mem_names {forest : Forest} {first : String} (h : first ∉ forest.names)
    (more : List String) : forest.find? (first :: more) = none := by
  induction forest with
  | nil => rfl
  | cons name entry children siblings _ ihSiblings =>
    rw [names, List.mem_cons, not_or] at h
    rw [find?, if_neg h.1, ihSiblings h.2]

/-- The way to a tree leads there. -/
theorem not_mem_names_of_find? {forest : Forest} {name : String} (h : forest.find? [name] = none) :
    name ∉ forest.names := by
  induction forest with
  | nil => exact List.not_mem_nil
  | cons other entry children siblings _ ihSiblings =>
    rw [find?] at h
    split at h
    · cases h
    · next hne =>
      rw [names, List.mem_cons, not_or]
      exact ⟨hne, ihSiblings h⟩

namespace WellFormed

variable {forest : Forest}

/-- The names that lead to a place find what is stored there, and nothing else is found. -/
theorem mem_places_iff (h : forest.WellFormed) (way : List String) (entry : Entry) :
    (way, entry) ∈ forest.places ↔ forest.find? way = some entry := by
  induction h generalizing way with
  | nil => simp [places, find?]
  | @cons name old children siblings legal fresh below beside ihBelow ihBeside =>
    have hbeside (more : List String) : (name :: more, entry) ∉ siblings.places := by
      rw [ihBeside, find?_of_not_mem_names fresh]
      nofun
    rw [places, List.mem_cons, List.mem_append, List.mem_map]
    cases way with
    | nil =>
      have hnowhere : ([], entry) ∉ siblings.places := by
        intro hplace
        obtain ⟨first, more, hway, -⟩ := exists_of_mem_places hplace
        cases hway
      simp [find?, hnowhere]
    | cons first more =>
      rw [find?]
      split
      · next hfirst =>
        subst hfirst
        cases more with
        | nil =>
          have hbelow : ([], entry) ∉ children.places := by
            intro hplace
            obtain ⟨first, more, hway, -⟩ := exists_of_mem_places hplace
            cases hway
          simp [hbeside, hbelow, eq_comm]
        | cons second more => simp [hbeside, ihBelow]
      · next hfirst => simp [hfirst, Ne.symm hfirst, ihBeside]

/-- The names that lead to a place are steps, and there is one. -/
theorem steps (h : forest.WellFormed) {place : List String × Entry}
    (hplace : place ∈ forest.places) :
    place.1 ≠ [] ∧ ∀ step ∈ place.1, Path.IsStep step := by
  induction h generalizing place with
  | nil => cases hplace
  | @cons name entry children siblings legal fresh below beside ihBelow ihBeside =>
    have hname := Store.isStep_of_isNodeName legal
    rw [places, List.mem_cons, List.mem_append, List.mem_map] at hplace
    rcases hplace with rfl | ⟨inner, hinner, rfl⟩ | hbeside
    · exact ⟨by simp, by simpa using hname⟩
    · exact ⟨by simp, by simpa using ⟨hname, (ihBelow hinner).2⟩⟩
    · exact ihBeside hbeside

/-- Different places have different names on the way. -/
theorem nodup_places (h : forest.WellFormed) : (forest.places.map Prod.fst).Nodup := by
  induction h with
  | nil => exact List.nodup_nil
  | @cons name entry children siblings legal fresh below beside ihBelow ihBeside =>
    -- No place beside begins with this name, and no place below ends with it.
    have hbeside (more : List String) : name :: more ∉ siblings.places.map Prod.fst := by
      intro hmem
      obtain ⟨place, hplace, hway⟩ := List.mem_map.mp hmem
      obtain ⟨first, later, hfirst, hnames⟩ := exists_of_mem_places hplace
      obtain ⟨rfl, -⟩ := List.cons.inj (hfirst.symm.trans hway)
      exact fresh hnames
    have hbelow : ((children.places.map fun place => (name :: place.1, place.2)).map Prod.fst) =
        (children.places.map Prod.fst).map (name :: ·) := by
      simp [Function.comp_def]
    have hends : [name] ∉ (children.places.map Prod.fst).map (name :: ·) := by
      intro hmem
      obtain ⟨way, hway, heq⟩ := List.mem_map.mp hmem
      obtain ⟨place, hplace, rfl⟩ := List.mem_map.mp hway
      obtain ⟨hne, -⟩ := below.steps hplace
      exact hne (List.cons.inj heq).2
    rw [places, List.map_cons, List.map_append, hbelow, List.nodup_cons, List.mem_append, not_or]
    refine ⟨⟨hends, hbeside []⟩, ?_⟩
    refine List.Nodup.append (ihBelow.map fun a b hab => (List.cons.inj hab).2) ihBeside ?_
    intro way hway hother
    obtain ⟨more, -, rfl⟩ := List.mem_map.mp hway
    exact hbeside more hother

end WellFormed

/-! ### Updates -/

/-- The names of one forest and then of another. -/
theorem names_append (forest other : Forest) :
    (forest.append other).names = forest.names ++ other.names := by
  induction forest with
  | nil => rfl
  | cons name entry children siblings _ ihSiblings => rw [append, names, names, ihSiblings]; rfl

/-- Below a node its siblings stay what they are. -/
theorem names_addBelow (new : String) (entry : Entry) (forest : Forest) (first : String)
    (more : List String) : (forest.addBelow new entry (first :: more)).names = forest.names := by
  induction forest with
  | nil => rfl
  | cons name old children siblings _ ihSiblings =>
    rw [addBelow]
    split
    · rfl
    · rw [names, names, ihSiblings]

/-- A change of what is stored leaves the names. -/
theorem names_modify (change : Entry → Entry) (forest : Forest) (way : List String) :
    (forest.modify change way).names = forest.names := by
  induction forest with
  | nil => cases way <;> rfl
  | cons name entry children siblings _ ihSiblings =>
    cases way with
    | nil => rfl
    | cons first more =>
      rw [modify]
      split
      · split <;> rfl
      · rw [names, names, ihSiblings]

namespace WellFormed

variable {forest : Forest}

/-- A new name may be put behind all others. -/
theorem append_new (h : forest.WellFormed) {new : String} (hlegal : Store.isNodeName new = true)
    (hfresh : new ∉ forest.names) (entry : Entry) :
    (forest.append (.cons new entry .nil .nil)).WellFormed := by
  induction h with
  | nil => exact .cons hlegal List.not_mem_nil .nil .nil
  | @cons name old children siblings legal fresh below beside _ ihBeside =>
    rw [names, List.mem_cons, not_or] at hfresh
    refine .cons legal ?_ below (ihBeside hfresh.2)
    rw [names_append, List.mem_append, not_or]
    exact ⟨fresh, by simpa [names] using Ne.symm hfresh.1⟩

/-- A node may be added where nothing is. -/
theorem addBelow (h : forest.WellFormed) {new : String} (hlegal : Store.isNodeName new = true)
    {way : List String} (hfree : forest.find? (way ++ [new]) = none) (entry : Entry) :
    (forest.addBelow new entry way).WellFormed := by
  induction h generalizing way with
  | nil =>
    cases way with
    | nil => exact .cons hlegal List.not_mem_nil .nil .nil
    | cons first more => exact .nil
  | @cons name old children siblings legal fresh below beside ihBelow ihBeside =>
    cases way with
    | nil =>
      have hnew := not_mem_names_of_find? hfree
      exact append_new (.cons legal fresh below beside) hlegal hnew entry
    | cons first more =>
      rw [List.cons_append, find?] at hfree
      rw [Forest.addBelow]
      split
      · next hfirst =>
        rw [if_pos hfirst, if_neg (by simp)] at hfree
        exact .cons legal fresh (ihBelow hfree) beside
      · next hfirst =>
        rw [if_neg hfirst, ← List.cons_append] at hfree
        exact .cons legal (by rwa [names_addBelow]) below (ihBeside hfree)

/-- What is stored may be changed. -/
theorem modify (h : forest.WellFormed) (change : Entry → Entry) (way : List String) :
    (forest.modify change way).WellFormed := by
  induction h generalizing way with
  | nil => cases way <;> exact .nil
  | @cons name entry children siblings legal fresh below beside ihBelow ihBeside =>
    cases way with
    | nil => exact .cons legal fresh below beside
    | cons first more =>
      rw [Forest.modify]
      split
      · split
        · exact .cons legal fresh below beside
        · exact .cons legal fresh (ihBelow more) beside
      · exact .cons legal (by rwa [names_modify]) below (ihBeside (first :: more))

end WellFormed

end Forest

namespace Store

/-- Adding a node checks its name, finds its parent and finds nothing in its place. -/
theorem add_cases {store next : Store} {parent name primaryType path : String}
    (h : store.add parent name primaryType = .ok (path, next)) :
    ∃ base way, isNodeName name = true ∧ Path.normalize parent = .ok base ∧
      Path.names? base = some way ∧ (store.find? base).isSome ∧
      store.find? (Path.child base name) = none ∧ path = Path.child base name ∧
      next = { store with children := store.children.addBelow name ⟨primaryType, []⟩ way } := by
  rw [add] at h
  cases hname : isNodeName name with
  | false => simp [hname] at h
  | true =>
    simp only [hname, Bool.not_true, Bool.false_eq_true, if_false] at h
    obtain ⟨base, hbase, h⟩ := Result.bind_eq_ok.mp h
    cases hfree : store.find? (Path.child base name) with
    | some entry => simp [hfree] at h
    | none =>
      cases hway : Path.names? base with
      | none => simp [hfree, hway] at h
      | some way =>
        cases hparent : store.find? base with
        | none => simp [hfree, hway, hparent] at h
        | some entry =>
          simp only [hfree, hway, hparent, Option.isSome_none, Option.isNone_some,
            Bool.false_eq_true, if_false] at h
          cases h
          exact ⟨base, way, rfl, hbase, hway, by rw [hparent]; rfl, hfree, rfl, rfl⟩

/-- Setting a property checks its name, finds the node and changes what is stored there. -/
theorem set_cases {store next : Store} {path name : String} {value : Value}
    (h : store.set path name value = .ok next) :
    ∃ property, Property.ofName name = .ok property ∧ property.isNode = false ∧
      (store.find? path).isSome ∧ next = store.modify path fun entry =>
        { entry with properties := Properties.set property.name value entry.properties } := by
  rw [set] at h
  obtain ⟨property, hproperty, h⟩ := Result.bind_eq_ok.mp h
  cases hself : property.isNode with
  | true => simp [hself] at h
  | false =>
    cases hfound : store.find? path with
    | none => simp [hself, hfound] at h
    | some entry =>
      simp only [hself, hfound, Option.isNone_some, Bool.false_eq_true, if_false] at h
      cases h
      exact ⟨property, hproperty, hself, rfl, rfl⟩

/-- A store whose nodes have names that are steps, and siblings different ones. -/
def WellFormed (store : Store) : Prop := store.children.WellFormed

/-- What is found at a path other than the root is what the children have there. -/
theorem find?_of_names? (store : Store) {path : String} {way : List String}
    (hway : Path.names? path = some way) (hne : way ≠ []) :
    store.find? path = store.children.find? way := by
  rw [find?, hway]
  cases way with
  | nil => exact absurd rfl hne
  | cons first more => rfl

/-- The names on the way to what is found are steps. -/
theorem WellFormed.steps_of_find? {store : Store} (h : store.WellFormed) {path : String}
    {way : List String} (hway : Path.names? path = some way) (hfound : (store.find? path).isSome) :
    ∀ step ∈ way, Path.IsStep step := by
  cases way with
  | nil => nofun
  | cons first more =>
    obtain ⟨entry, hentry⟩ := Option.isSome_iff_exists.mp hfound
    rw [find?_of_names? store hway (List.cons_ne_nil first more)] at hentry
    exact (Forest.WellFormed.steps h ((Forest.WellFormed.mem_places_iff h _ _).mpr hentry)).2

/-- Updates keep the names as they have to be. -/
theorem Reachable.wellFormed {store : Store} (h : store.Reachable) : store.WellFormed := by
  induction h with
  | empty => exact .nil
  | @add store next parent name primaryType path _ hadd ih =>
    obtain ⟨base, way, hname, -, hway, hparent, hfree, -, rfl⟩ := add_cases hadd
    -- The parent was found, so the names on the way to the child are steps and find it again.
    have hsteps := ih.steps_of_find? hway hparent
    have hchild := Path.names?_child hway hsteps (isStep_of_isNodeName hname)
    rw [find?_of_names? store hchild (by simp)] at hfree
    exact Forest.WellFormed.addBelow ih hname hfree _
  | @set store next path name value _ hset ih =>
    obtain ⟨property, -, -, -, rfl⟩ := set_cases hset
    rw [WellFormed, modify]
    split
    · exact ih
    · exact Forest.WellFormed.modify ih _ _
    · exact ih

/-- The root and what is at the places below it. -/
theorem nodes_eq (store : Store) : store.nodes = ⟨Path.root, store.root⟩ ::
    store.children.places.map fun place => ⟨Path.along "" place.1, place.2⟩ := by
  rw [nodes, Forest.nodes_eq]

/-- A node is at a path if this is what is found there. -/
theorem node?_eq_some_iff (store : Store) (n : Node) :
    store.node? n.path = some n ↔ store.find? n.path = some n.entry := by
  obtain ⟨path, entry⟩ := n
  simp [node?]

/-- The nodes of a store are those that paths lead to. -/
theorem WellFormed.mem_nodes_iff {store : Store} (h : store.WellFormed) (n : Node) :
    n ∈ store.nodes ↔ store.node? n.path = some n := by
  rw [node?_eq_some_iff, nodes_eq, List.mem_cons, List.mem_map]
  constructor
  · intro hn
    rcases hn with rfl | ⟨place, hplace, rfl⟩
    · rw [find?, Path.names?_eq_nil_iff.mpr rfl]
    · obtain ⟨hne, hsteps⟩ := Forest.WellFormed.steps h hplace
      rw [find?_of_names? store (Path.names?_along hsteps hne) hne]
      exact (Forest.WellFormed.mem_places_iff h _ _).mp hplace
  · intro hfound
    obtain ⟨path, entry⟩ := n
    simp only at hfound
    rw [find?] at hfound
    split at hfound
    · next hroot =>
      obtain rfl := Path.names?_eq_nil_iff.mp hroot
      cases hfound
      exact .inl rfl
    · next way hne hway =>
      have hplace := (Forest.WellFormed.mem_places_iff h _ _).mpr hfound
      exact .inr ⟨_, hplace, by rw [Path.along_of_names? hway hne]⟩
    · cases hfound

/-- Different nodes have different paths. -/
theorem WellFormed.nodup_paths {store : Store} (h : store.WellFormed) :
    (store.nodes.map Node.path).Nodup := by
  have hsteps {way : List String} (hway : way ∈ store.children.places.map Prod.fst) :
      Path.names? (Path.along "" way) = some way ∧ way ≠ [] := by
    obtain ⟨place, hplace, rfl⟩ := List.mem_map.mp hway
    obtain ⟨hne, hall⟩ := Forest.WellFormed.steps h hplace
    exact ⟨Path.names?_along hall hne, hne⟩
  have hpaths : store.nodes.map Node.path =
      Path.root :: (store.children.places.map Prod.fst).map (Path.along "") := by
    simp [nodes_eq, Function.comp_def]
  rw [hpaths, List.nodup_cons]
  constructor
  · intro hroot
    obtain ⟨way, hway, heq⟩ := List.mem_map.mp hroot
    obtain ⟨hnames, hne⟩ := hsteps hway
    rw [Path.names?_eq_nil_iff.mpr heq] at hnames
    exact hne (Option.some.inj hnames).symm
  · refine (Forest.WellFormed.nodup_places h).map_on fun way hway other hother heq => ?_
    have hnames := (hsteps hway).1
    rw [heq, (hsteps hother).1] at hnames
    exact (Option.some.inj hnames).symm

/-- No node is listed twice. -/
theorem WellFormed.nodup_nodes {store : Store} (h : store.WellFormed) : store.nodes.Nodup :=
  h.nodup_paths.of_map _

end Store

end ContentQuery
