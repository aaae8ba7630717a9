import ContentQuery.Proofs.Repository.Mirror

/-!
# The ways to the nodes of a store

In document order the way to a node is followed by all ways that go on from it, and the ways that go
on by one name lead to its children in their order. Paths are made of ways, and so the same holds of
paths: those below a path begin with it and a slash.
-/

namespace ContentQuery

namespace Forest

/-- The names that lead to what is stored, in document order. -/
def ways (forest : Forest) : List (List String) := forest.places.map Prod.fst

/-- Whether one way goes on from another one. -/
def goesOn (way other : List String) : Bool := way <+: other ∧ way ≠ other

/-- Whether one way goes on from another one by one name. -/
def isNext (way other : List String) : Bool := other ≠ [] ∧ other.dropLast = way

/-- What goes on by one name goes on. -/
theorem goesOn_of_isNext {way other : List String} (h : isNext way other = true) :
    goesOn way other = true := by
  obtain ⟨hne, rfl⟩ : other ≠ [] ∧ other.dropLast = way := of_decide_eq_true h
  refine decide_eq_true ⟨other.dropLast_prefix, fun heq => ?_⟩
  have hlength := congrArg List.length heq
  have hpositive := List.length_pos_iff.mpr hne
  rw [List.length_dropLast] at hlength
  omega

/-- A way leads through a tree of the forest. -/
theorem exists_of_mem_ways {forest : Forest} {way : List String} (h : way ∈ forest.ways) :
    ∃ first more, way = first :: more ∧ first ∈ forest.names := by
  obtain ⟨place, hplace, rfl⟩ := List.mem_map.mp h
  exact exists_of_mem_places hplace

/-- The ways of a forest lead to its first tree, below it and beside it. -/
theorem ways_cons (name : String) (entry : Entry) (children siblings : Forest) :
    (cons name entry children siblings).ways =
      [name] :: (children.ways.map (name :: ·) ++ siblings.ways) := by
  simp [ways, places, Function.comp_def]

/-- Ways that go on from one that has names lead below the tree of the first of them. -/
theorem filter_ways_cons {name first : String} {more : List String} {entry : Entry}
    {children siblings : Forest} (hfresh : name ∉ siblings.names) {q : List String → Bool}
    (hq : ∀ way, q way = true → goesOn (first :: more) way = true) :
    (cons name entry children siblings).ways.filter q =
      if first = name then (children.ways.map (name :: ·)).filter q
      else siblings.ways.filter q := by
  have hnone (ways : List (List String)) (h : ∀ way ∈ ways, ¬ first :: more <+: way) :
      ways.filter q = [] := by
    rw [List.filter_eq_nil_iff]
    intro way hway hgoes
    exact h way hway (of_decide_eq_true (hq way hgoes)).1
  have hself : q [name] = false := by
    rw [Bool.eq_false_iff]
    intro hgoes
    obtain ⟨⟨later, hlater⟩, hne⟩ : first :: more <+: [name] ∧ first :: more ≠ [name] :=
      of_decide_eq_true (hq _ hgoes)
    simp_all
  rw [ways_cons, List.filter_cons_of_neg (by simp [hself]), List.filter_append]
  split
  · next heq =>
    subst heq
    rw [hnone siblings.ways, List.append_nil]
    rintro way hway ⟨later, rfl⟩
    obtain ⟨step, steps, hstep, hmem⟩ := exists_of_mem_ways hway
    rw [List.cons_append, List.cons.injEq] at hstep
    exact hfresh (hstep.1 ▸ hmem)
  · next hne =>
    rw [hnone (children.ways.map (name :: ·)), List.nil_append]
    rintro way hway ⟨later, rfl⟩
    obtain ⟨inner, -, heq⟩ := List.mem_map.mp hway
    exact hne (List.cons.inj heq).1.symm

/-- The children of the top lead one name down. -/
theorem filter_isNext_nil (forest : Forest) :
    forest.ways.filter (isNext []) = forest.names.map ([·]) := by
  induction forest with
  | nil => rfl
  | cons name entry children siblings _ ihSiblings =>
    have hbelow : (children.ways.map (name :: ·)).filter (isNext []) = [] := by
      rw [List.filter_eq_nil_iff]
      intro way hway hnext
      obtain ⟨inner, hinner, rfl⟩ := List.mem_map.mp hway
      obtain ⟨first, more, rfl, -⟩ := exists_of_mem_ways hinner
      simp [isNext] at hnext
    rw [ways_cons, List.filter_cons_of_pos (by rfl), List.filter_append, hbelow, List.nil_append,
      ihSiblings]
    rfl

namespace WellFormed

variable {forest : Forest}

/-- The children of a branch lead one name down from it, in their order. -/
theorem filter_isNext (h : forest.WellFormed) {way : List String} {branch : Entry × List String}
    (hbranch : forest.branch? way = some branch) :
    forest.ways.filter (isNext way) = branch.2.map (way ++ [·]) := by
  induction h generalizing way branch with
  | nil => cases way <;> cases hbranch
  | @cons name entry children siblings legal fresh below beside ihBelow ihBeside =>
    cases way with
    | nil => cases hbranch
    | cons first more =>
      rw [filter_ways_cons fresh fun way => goesOn_of_isNext]
      rw [branch?] at hbranch
      split
      · next heq =>
        subst heq
        have hinner : isNext (first :: more) ∘ (first :: ·) = isNext more := by
          funext way
          cases way <;> simp [isNext]
        rw [List.filter_map, hinner]
        rw [if_pos rfl] at hbranch
        cases more with
        | nil =>
          cases hbranch
          rw [filter_isNext_nil, List.map_map]
          rfl
        | cons second more =>
          rw [ihBelow hbranch, List.map_map]
          rfl
      · next hne =>
        rw [if_neg hne] at hbranch
        exact ihBeside hbranch

/-- A way is followed by all ways that go on from it. -/
theorem exists_block (h : forest.WellFormed) {way : List String} (hway : way ∈ forest.ways) :
    ∃ before after, forest.ways = before ++ way :: forest.ways.filter (goesOn way) ++ after := by
  induction h generalizing way with
  | nil => cases hway
  | @cons name entry children siblings legal fresh below beside ihBelow ihBeside =>
    rw [ways_cons, List.mem_cons, List.mem_append] at hway
    rcases hway with rfl | hway | hway
    · have hall : (children.ways.map (name :: ·)).filter (goesOn [name]) =
          children.ways.map (name :: ·) := by
        rw [List.filter_eq_self]
        intro way hway
        obtain ⟨inner, hinner, rfl⟩ := List.mem_map.mp hway
        obtain ⟨first, more, rfl, -⟩ := exists_of_mem_ways hinner
        simp [goesOn]
      rw [filter_ways_cons fresh fun _ h => h, if_pos rfl, hall, ways_cons]
      exact ⟨[], siblings.ways, rfl⟩
    · obtain ⟨inner, hinner, rfl⟩ := List.mem_map.mp hway
      obtain ⟨before, after, hblock⟩ := ihBelow hinner
      have hdown : goesOn (name :: inner) ∘ (name :: ·) = goesOn inner := by
        funext way
        simp [goesOn]
      have hmap : children.ways.map (name :: ·) = before.map (name :: ·) ++
          (name :: inner) :: (children.ways.filter (goesOn inner)).map (name :: ·) ++
            after.map (name :: ·) := by
        simpa using congrArg (List.map (name :: ·)) hblock
      rw [filter_ways_cons fresh fun _ h => h, if_pos rfl, List.filter_map, hdown, ways_cons, hmap]
      exact ⟨[name] :: before.map (name :: ·), after.map (name :: ·) ++ siblings.ways, by simp⟩
    · obtain ⟨first, more, rfl, hfirst⟩ := exists_of_mem_ways hway
      have hne : first ≠ name := fun heq => fresh (heq ▸ hfirst)
      obtain ⟨before, after, hblock⟩ := ihBeside hway
      rw [filter_ways_cons fresh fun _ h => h, if_neg hne, ways_cons]
      refine ⟨[name] :: (children.ways.map (name :: ·) ++ before), after, ?_⟩
      rw [List.cons_append, List.cons_append, List.append_assoc, List.append_assoc,
        ← List.append_assoc before, ← hblock]

end WellFormed

end Forest

namespace Store

variable {store : Store}

/-- The names that lead to the nodes of a store, in document order. -/
def ways (store : Store) : List (List String) := [] :: store.children.ways

/-- The paths of the nodes of a store are along its ways. -/
theorem paths_nodes (store : Store) :
    store.nodes.map Node.path = store.ways.map Path.ofNames := by
  have hplace : ∀ place ∈ store.children.places,
      Path.along "" place.1 = Path.ofNames place.1 := by
    intro place hplace
    obtain ⟨first, more, hfirst, -⟩ := Forest.exists_of_mem_places hplace
    rw [hfirst]
    rfl
  rw [nodes_eq, ways, Forest.ways, List.map_cons, List.map_cons, List.map_map, List.map_map]
  exact congrArg (Path.root :: ·) (List.map_congr_left hplace)

/-- One path is that of a child of another one if its names go on by one. -/
theorem isChild_ofNames {way other : List String} (hother : ∀ step ∈ other, Path.IsStep step)
    (hway : ∀ step ∈ way, Path.IsStep step) :
    NodeTable.isChild (Path.ofNames other) (Path.ofNames way) = Forest.isNext way other := by
  rcases List.eq_nil_or_concat other with rfl | ⟨above, name, rfl⟩
  · simp [NodeTable.isChild, Forest.isNext, Path.ofNames]
  · rw [List.concat_eq_append] at hother ⊢
    have habove : ∀ step ∈ above, Path.IsStep step := fun step hstep =>
      hother step (List.mem_append_left _ hstep)
    have hname : Path.IsStep name := hother name (by simp)
    rw [← Path.child_ofNames habove hname, NodeTable.isChild,
      Path.parent_child (Path.ofNames_ne_empty habove) hname, Forest.isNext]
    simp [Path.child_ne_root hname, Path.ofNames_inj habove hway]

namespace WellFormed

/-- Ways are made of steps. -/
theorem steps_of_mem_ways (h : store.WellFormed) {way : List String} (hway : way ∈ store.ways) :
    ∀ step ∈ way, Path.IsStep step := by
  rcases List.mem_cons.mp hway with rfl | hway
  · nofun
  · obtain ⟨place, hplace, rfl⟩ := List.mem_map.mp hway
    exact (Forest.WellFormed.steps h hplace).2

/-- A path is followed by all paths below it. -/
theorem exists_block (h : store.WellFormed) {path : String}
    (hpath : path ∈ store.nodes.map Node.path) (hne : path ≠ Path.root) :
    ∃ before after, store.nodes.map Node.path =
      before ++ path :: (store.nodes.map Node.path).filter (Path.isBelow · path) ++ after := by
  rw [paths_nodes] at hpath ⊢
  obtain ⟨way, hway, rfl⟩ := List.mem_map.mp hpath
  have hbelow : ∀ other ∈ store.ways,
      Path.isBelow (Path.ofNames other) (Path.ofNames way) = Forest.goesOn way other := by
    intro other hother
    rw [Bool.eq_iff_iff, Path.isBelow_ofNames_iff (h.steps_of_mem_ways hother)
      (h.steps_of_mem_ways hway) fun heq => hne (heq ▸ rfl)]
    exact (decide_eq_true_iff).symm
  have hfilter : (store.ways.map Path.ofNames).filter (Path.isBelow · (Path.ofNames way)) =
      (store.ways.filter (Forest.goesOn way)).map Path.ofNames := by
    rw [List.filter_map]
    exact congrArg _ (List.filter_congr hbelow)
  rcases List.mem_cons.mp hway with rfl | hway
  · exact absurd rfl hne
  · obtain ⟨before, after, hblock⟩ := Forest.WellFormed.exists_block h hway
    have hroot : store.ways.filter (Forest.goesOn way) =
        store.children.ways.filter (Forest.goesOn way) := by
      obtain ⟨first, more, rfl, -⟩ := Forest.exists_of_mem_ways hway
      rw [ways, List.filter_cons_of_neg (by simp [Forest.goesOn])]
    refine ⟨Path.root :: before.map Path.ofNames, after.map Path.ofNames, ?_⟩
    have hmap := congrArg (List.map Path.ofNames) hblock
    rw [hfilter, hroot, ways, List.map_cons, hmap]
    simp [Path.ofNames]

/-- The children of a branch are listed in their order. -/
theorem filter_isChild (h : store.WellFormed) {path : String} {record : Record}
    (hrecord : store.record? path = some record) :
    (store.nodes.map Node.path).filter (NodeTable.isChild · path) = record.children := by
  rw [Store.record?] at hrecord
  obtain ⟨way, hway, hrecord⟩ := Option.bind_eq_some_iff.mp hrecord
  obtain ⟨branch, hbranch, rfl⟩ := Option.map_eq_some_iff.mp hrecord
  have hsteps := h.steps_of_branch? (by rw [hbranch]; rfl)
  obtain rfl := Path.ofNames_of_names? hway
  have hchild : ∀ other ∈ store.ways,
      NodeTable.isChild (Path.ofNames other) (Path.ofNames way) = Forest.isNext way other :=
    fun other hother => isChild_ofNames (h.steps_of_mem_ways hother) hsteps
  have hnext : store.ways.filter (Forest.isNext way) = branch.2.map (way ++ [·]) := by
    rw [ways, List.filter_cons_of_neg (by simp [Forest.isNext])]
    cases way with
    | nil =>
      cases hbranch
      exact Forest.filter_isNext_nil _
    | cons first more => exact Forest.WellFormed.filter_isNext h hbranch
  have hpath : ∀ name ∈ branch.2,
      Path.ofNames (way ++ [name]) = Path.child (Path.ofNames way) name := by
    intro name hname
    have hmem : way ++ [name] ∈ store.ways.filter (Forest.isNext way) := by
      rw [hnext]
      exact List.mem_map_of_mem hname
    have hstep := h.steps_of_mem_ways (List.mem_of_mem_filter hmem) name (by simp)
    exact (Path.child_ofNames hsteps hstep).symm
  rw [paths_nodes, List.filter_map]
  simp only [Function.comp_def]
  rw [List.filter_congr hchild, hnext, List.map_map]
  exact List.map_congr_left hpath

end WellFormed

end Store

end ContentQuery
