import ContentQuery.Proofs.Repository.Ways

/-!
# Where an added node comes in document order

A node that is added is the last child of its parent, and so it comes right behind the last node of
what hangs together with the parent: the parent itself and all that is below it. All other nodes
keep their places. A property that is set moves nothing.
-/

namespace ContentQuery

/-! ### Lists with one more member -/

/-- One more member in a list, right behind the last of those with a property. -/
inductive PutBehind {α : Type} (p : α → Prop) : List α → α → List α → Prop
  | intro {before : List α} {last : α} {after : List α} (new : α) (hlast : p last)
    (hafter : ∀ a ∈ after, ¬ p a) :
    PutBehind p (before ++ last :: after) new (before ++ last :: new :: after)

namespace PutBehind

variable {α β : Type} {p : α → Prop} {old next : List α} {new : α}

/-- A member behind all others, if they have the property. -/
theorem of_forall (hne : old ≠ []) (h : ∀ a ∈ old, p a) (new : α) :
    PutBehind p old new (old ++ [new]) := by
  rcases List.eq_nil_or_concat old with rfl | ⟨before, last, rfl⟩
  · exact absurd rfl hne
  · rw [List.concat_eq_append, List.append_assoc]
    exact .intro new (h last (by simp)) nofun

/-- More members in front make no difference. -/
theorem append_left (first : List α) (h : PutBehind p old new next) :
    PutBehind p (first ++ old) new (first ++ next) := by
  obtain ⟨_, hlast, hafter⟩ := h
  rw [← List.append_assoc, ← List.append_assoc]
  exact .intro new hlast hafter

/-- More members behind make no difference if none has the property. -/
theorem append_right {rest : List α} (hrest : ∀ a ∈ rest, ¬ p a) (h : PutBehind p old new next) :
    PutBehind p (old ++ rest) new (next ++ rest) := by
  obtain ⟨_, hlast, hafter⟩ := h
  rw [List.append_assoc, List.append_assoc, List.cons_append, List.cons_append, List.cons_append]
  exact .intro new hlast fun a ha => (List.mem_append.mp ha).elim (hafter a) (hrest a)

/-- The image of a list has one more member where the list has, if it has the property for the
members that have it. -/
theorem map {q : β → Prop} {f : α → β} (hq : ∀ a ∈ old, q (f a) ↔ p a)
    (h : PutBehind p old new next) : PutBehind q (old.map f) (f new) (next.map f) := by
  obtain ⟨_, hlast, hafter⟩ := h
  rw [List.map_append, List.map_append, List.map_cons, List.map_cons, List.map_cons]
  refine .intro (f new) ((hq _ (by simp)).mpr hlast) fun b hb => ?_
  obtain ⟨a, ha, rfl⟩ := List.mem_map.mp hb
  rw [hq a (by simp [ha])]
  exact hafter a ha

end PutBehind

/-! ### Ways -/

namespace Forest

/-- A new name at the top leads to the last of all trees. -/
theorem ways_append (forest : Forest) (new : String) (entry : Entry) :
    (forest.append (cons new entry nil nil)).ways = forest.ways ++ [[new]] := by
  induction forest with
  | nil => rfl
  | cons name old children siblings _ ihSiblings =>
    rw [append, ways_cons, ways_cons, ihSiblings, List.cons_append, List.append_assoc]

/-- The ways are what they were after a change of what is stored. -/
theorem ways_modify (change : Entry → Entry) (forest : Forest) (way : List String) :
    (forest.modify change way).ways = forest.ways := by
  induction forest generalizing way with
  | nil => cases way <;> rfl
  | cons name entry children siblings ihChildren ihSiblings =>
    cases way with
    | nil => rfl
    | cons first more =>
      rw [modify]
      split
      · split
        · rw [ways_cons, ways_cons]
        · rw [ways_cons, ways_cons, ihChildren]
      · rw [ways_cons, ways_cons, ihSiblings]

/-- The way to an added node comes right behind the last way that goes on from that to its
parent. -/
theorem WellFormed.ways_addBelow {forest : Forest} (h : forest.WellFormed) {way : List String}
    (hway : way ∈ forest.ways) (new : String) (entry : Entry) :
    PutBehind (way <+: ·) forest.ways (way ++ [new]) (forest.addBelow new entry way).ways := by
  induction h generalizing way with
  | nil => cases hway
  | @cons name old children siblings legal fresh below beside ihBelow ihBeside =>
    -- No way beside the first tree goes on from one through it.
    have hbeside (inner : List String) : ∀ other ∈ siblings.ways, ¬ name :: inner <+: other := by
      rintro other hother ⟨later, rfl⟩
      obtain ⟨first, more, hfirst, hnames⟩ := exists_of_mem_ways hother
      obtain rfl : name = first := (List.cons.inj hfirst).1
      exact fresh hnames
    rw [ways_cons, List.mem_cons, List.mem_append] at hway
    rcases hway with rfl | hway | hway
    · have hthrough : ∀ other ∈ [name] :: children.ways.map (name :: ·), [name] <+: other := by
        simp
      have hlast := (PutBehind.of_forall (List.cons_ne_nil _ _) hthrough [name, new]).append_right
        (hbeside [])
      rw [Forest.addBelow, if_pos rfl, Forest.addBelow, ways_cons, ways_cons, ways_append,
        List.map_append, List.map_singleton]
      exact hlast
    · obtain ⟨inner, hinner, rfl⟩ := List.mem_map.mp hway
      have hdown := (ihBelow hinner).map (f := (name :: ·)) (q := (name :: inner <+: ·))
        fun other _ => by simp
      rw [Forest.addBelow, if_pos rfl, ways_cons, ways_cons]
      exact (hdown.append_right (hbeside inner)).append_left [[name]]
    · obtain ⟨first, more, rfl, hfirst⟩ := exists_of_mem_ways hway
      have hne : first ≠ name := fun heq => fresh (heq ▸ hfirst)
      rw [Forest.addBelow, if_neg hne, ways_cons, ways_cons]
      exact (ihBeside hway).append_left ([name] :: children.ways.map (name :: ·))

end Forest

/-! ### Paths -/

/-- Whether a path is another one or below it. All paths are below that of the root. -/
def Path.IsWithin (path base : String) : Prop :=
  path = base ∨ base = root ∨ isBelow path base

/-- A path is within another one if its names go on from those of the other. -/
theorem Path.isWithin_ofNames_iff {names base : List String} (hnames : ∀ name ∈ names, IsStep name)
    (hbase : ∀ name ∈ base, IsStep name) :
    IsWithin (ofNames names) (ofNames base) ↔ base <+: names := by
  have hself : ofNames names = ofNames base ↔ names = base := ofNames_inj hnames hbase
  rw [IsWithin, hself]
  rcases eq_or_ne base [] with rfl | hne
  · have hroot : ofNames [] = root := rfl
    simp [hroot]
  · have hroot : ofNames base ≠ root := fun heq =>
      hne ((ofNames_inj hbase (List.forall_mem_nil _)).mp heq)
    rw [or_iff_right hroot, isBelow_ofNames_iff hnames hbase hne]
    constructor
    · rintro (rfl | ⟨hbegins, -⟩)
      · exact List.prefix_rfl
      · exact hbegins
    · intro hbegins
      rcases eq_or_ne names base with heq | hdifferent
      · exact .inl heq
      · exact .inr ⟨hbegins, hdifferent.symm⟩

namespace Store

variable {store next : Store}

/-- There is a way to what is found. -/
theorem WellFormed.mem_ways_of_find? (h : store.WellFormed) {path : String} {way : List String}
    (hway : Path.names? path = some way) (hfound : (store.find? path).isSome) :
    way ∈ store.ways := by
  rcases eq_or_ne way [] with rfl | hne
  · exact List.mem_cons_self
  · rw [find?_of_names? store hway hne] at hfound
    obtain ⟨entry, hentry⟩ := Option.isSome_iff_exists.mp hfound
    exact List.mem_cons_of_mem _
      (List.mem_map.mpr ⟨_, (Forest.WellFormed.mem_places_iff h way entry).mpr hentry, rfl⟩)

/-- The way to an added node comes right behind the last way that goes on from that to its
parent. -/
theorem WellFormed.ways_addBelow (h : store.WellFormed) {way : List String}
    (hway : way ∈ store.ways) (new : String) (entry : Entry) :
    PutBehind (way <+: ·) store.ways (way ++ [new])
      (ways { store with children := store.children.addBelow new entry way }) := by
  rcases List.mem_cons.mp hway with rfl | hmem
  · have hlast := PutBehind.of_forall (p := ([] <+: ·)) (List.cons_ne_nil [] store.children.ways)
      (fun other _ => List.nil_prefix) [new]
    rw [ways, ways, Forest.addBelow, Forest.ways_append]
    exact hlast
  · exact (Forest.WellFormed.ways_addBelow h hmem new entry).append_left [[]]

/-- An added node comes right behind the last node within its parent. -/
theorem WellFormed.order_of_add (h : store.WellFormed) {parent name primaryType path : String}
    (hadd : store.add parent name primaryType = .ok (path, next)) :
    ∃ base, Path.normalize parent = .ok base ∧ path = Path.child base name ∧
      PutBehind (Path.IsWithin · base) (store.nodes.map Node.path) path
        (next.nodes.map Node.path) := by
  obtain ⟨base, way, hname, hbase, hway, hparent, -, rfl, rfl⟩ := add_cases hadd
  have hsteps := h.steps_of_find? hway hparent
  have hput := (h.ways_addBelow (h.mem_ways_of_find? hway hparent) name ⟨primaryType, []⟩).map
    (f := Path.ofNames) (q := (Path.IsWithin · (Path.ofNames way))) fun other hother =>
      Path.isWithin_ofNames_iff (h.steps_of_mem_ways hother) hsteps
  refine ⟨base, hbase, rfl, ?_⟩
  rw [← Path.child_ofNames hsteps (isStep_of_isNodeName hname), Path.ofNames_of_names? hway] at hput
  rwa [paths_nodes, paths_nodes]

/-- A property that is set moves no node. -/
theorem order_of_set {path name : String} {value : Value}
    (hset : store.set path name value = .ok next) :
    next.nodes.map Node.path = store.nodes.map Node.path := by
  obtain ⟨property, -, -, -, rfl⟩ := set_cases hset
  rw [paths_nodes, paths_nodes, modify]
  split
  · rfl
  · rw [ways, ways, Forest.ways_modify]
  · rfl

end Store

end ContentQuery
