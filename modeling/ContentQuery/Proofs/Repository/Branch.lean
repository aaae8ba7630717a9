import ContentQuery.Proofs.Repository.Tree

/-!
# Branches of a store

At a node of a store there is what is stored of it and the names of its children. A node that is
added is a branch without children, and one more name at its parent. A change of what is stored is
seen at one branch only.
-/

namespace ContentQuery

namespace Forest

/-- What is stored where the names lead, and the names of the children there. -/
def branch? : List String → Forest → Option (Entry × List String)
  | _, nil => none
  | [], _ => none
  | first :: more, cons name entry children siblings =>
    if first = name then
      (if more.isEmpty then some (entry, children.names) else branch? more children)
    else branch? (first :: more) siblings

/-- Nothing is stored where no names lead. -/
@[simp] theorem branch?_nil (forest : Forest) : forest.branch? [] = none := by
  cases forest <;> rfl

section Cons

variable {first name : String} (entry : Entry) (children siblings : Forest) (more : List String)

/-- The name of the first tree leads to it and below it. -/
@[simp] theorem branch?_cons_self (name : String) :
    (cons name entry children siblings).branch? (name :: more) =
      if more = [] then some (entry, children.names) else children.branch? more := by
  simp [branch?]

/-- Any other name leads beside the first tree. -/
theorem branch?_cons_of_ne (h : first ≠ name) :
    (cons name entry children siblings).branch? (first :: more) =
      siblings.branch? (first :: more) := by
  rw [branch?, if_neg h]

end Cons

/-- What is found is what is stored at a branch. -/
theorem find?_eq_branch? (forest : Forest) (way : List String) :
    forest.find? way = (forest.branch? way).map (·.1) := by
  induction forest generalizing way with
  | nil => cases way <;> rfl
  | cons name entry children siblings ihChildren ihSiblings =>
    cases way with
    | nil => rfl
    | cons first more =>
      rw [find?, branch?]
      split
      · split
        · rfl
        · exact ihChildren more
      · exact ihSiblings (first :: more)

/-- No branch is reached through a tree that is not there. -/
theorem branch?_of_not_mem_names {forest : Forest} {first : String} (h : first ∉ forest.names)
    (more : List String) : forest.branch? (first :: more) = none := by
  have hnone := find?_of_not_mem_names h more
  rwa [find?_eq_branch?, Option.map_eq_none_iff] at hnone

/-- What is below the first tree is reached through it. -/
theorem branch?_below {name : String} {entry : Entry} {children : Forest} (siblings : Forest)
    {way : List String} {branch : Entry × List String} (h : children.branch? way = some branch) :
    (cons name entry children siblings).branch? (name :: way) = some branch := by
  have hne : way ≠ [] := by
    rintro rfl
    simp at h
  rw [branch?_cons_self, if_neg hne, h]

/-- What is beside the first tree is reached as without it. -/
theorem branch?_beside {name : String} (entry : Entry) (children : Forest) {siblings : Forest}
    (hfresh : name ∉ siblings.names) {way : List String} {branch : Entry × List String}
    (h : siblings.branch? way = some branch) :
    (cons name entry children siblings).branch? way = some branch := by
  cases way with
  | nil => simp at h
  | cons first more =>
    have hne : first ≠ name := by
      rintro rfl
      rw [branch?_of_not_mem_names hfresh] at h
      cases h
    rw [branch?_cons_of_ne _ _ _ _ hne, h]

/-- A new tree behind all others is a branch without children. -/
theorem branch?_append {forest : Forest} {new : String} (h : new ∉ forest.names) (entry : Entry)
    (way : List String) :
    (forest.append (cons new entry nil nil)).branch? way =
      if way = [new] then some (entry, []) else forest.branch? way := by
  cases way with
  | nil => simp
  | cons first more =>
    induction forest with
    | nil =>
      rw [append, branch?]
      cases more <;> simp [branch?, names]
    | cons name old children siblings _ ihSiblings =>
      rw [names, List.mem_cons, not_or] at h
      rw [append, branch?, branch?, ihSiblings h.2]
      by_cases hfirst : first = name
      · have hnew : first ≠ new := fun heq => h.1 (heq ▸ hfirst)
        simp [hfirst, hfirst ▸ hnew]
      · simp [hfirst]

/-- At the top a new name is the last one. -/
theorem names_addBelow_nil (new : String) (entry : Entry) (forest : Forest) :
    (forest.addBelow new entry []).names = forest.names ++ [new] := by
  rw [addBelow, names_append]
  rfl

/-- A node that is added is a branch without children, and its name is the last one at its
parent. -/
theorem branch?_addBelow {forest : Forest} {new : String} {way : List String}
    (hparent : way ≠ [] → (forest.branch? way).isSome)
    (hfree : forest.branch? (way ++ [new]) = none) (entry : Entry) (other : List String) :
    (forest.addBelow new entry way).branch? other =
      if other = way ++ [new] then some (entry, [])
      else if other = way then (forest.branch? way).map fun old => (old.1, old.2 ++ [new])
      else forest.branch? other := by
  induction forest generalizing way other with
  | nil =>
    cases way with
    | nil =>
      have hnone : new ∉ names nil := List.not_mem_nil
      have h := branch?_append hnone entry other
      cases other <;> simp_all [addBelow]
    | cons first more =>
      have h := hparent (List.cons_ne_nil first more)
      cases h
  | cons name old children siblings ihChildren ihSiblings =>
    cases way with
    | nil =>
      have hnew := not_mem_names_of_find? (by rw [find?_eq_branch?]; exact congrArg _ hfree)
      rw [addBelow, branch?_append hnew]
      cases other <;> simp
    | cons first more =>
      rw [addBelow]
      split
      · next heq =>
        subst heq
        have hbelow : children.branch? (more ++ [new]) = none := by simpa using hfree
        have habove (hne : more ≠ []) : (children.branch? more).isSome := by
          simpa [hne] using hparent
        have ih := ihChildren habove hbelow
        cases other with
        | nil => simp
        | cons step later =>
          by_cases hstep : step = first
          · subst hstep
            rw [branch?_cons_self, branch?_cons_self, branch?_cons_self, ih]
            cases later with
            | nil => cases more <;> simp [names_addBelow_nil, names_addBelow]
            | cons second later => cases more <;> simp
          · simp [branch?_cons_of_ne _ _ _ _ hstep, hstep]
      · next hne =>
        rw [List.cons_append, branch?_cons_of_ne _ _ _ _ hne] at hfree
        rw [branch?_cons_of_ne _ _ _ _ hne] at hparent ⊢
        have ih := ihSiblings hparent hfree
        cases other with
        | nil => simp
        | cons step later =>
          by_cases hstep : step = name
          · have hother : step ≠ first := fun heq => hne (heq.symm.trans hstep)
            subst hstep
            simp [hother]
          · rw [branch?_cons_of_ne _ _ _ _ hstep, branch?_cons_of_ne _ _ _ _ hstep, ih]

/-- A change of what is stored is seen at one branch only. -/
theorem branch?_modify (change : Entry → Entry) (forest : Forest) (way other : List String) :
    (forest.modify change way).branch? other =
      if other = way then (forest.branch? way).map fun old => (change old.1, old.2)
      else forest.branch? other := by
  induction forest generalizing way other with
  | nil => cases way <;> cases other <;> simp [modify, branch?]
  | cons name entry children siblings ihChildren ihSiblings =>
    cases way with
    | nil =>
      have hsame : (cons name entry children siblings).modify change [] =
          cons name entry children siblings := rfl
      rw [hsame]
      split <;> simp_all
    | cons first more =>
      cases other with
      | nil => simp
      | cons step later =>
        rw [modify]
        by_cases hfirst : first = name
        · subst hfirst
          by_cases hstep : step = first
          · subst hstep
            have ih := ihChildren more later
            cases more with
            | nil => cases later <;> simp
            | cons second more => cases later <;> simp [names_modify, ih]
          · cases more <;> simp [branch?_cons_of_ne _ _ _ _ hstep, hstep]
        · rw [if_neg hfirst, branch?_cons_of_ne _ _ _ _ hfirst]
          by_cases hstep : step = name
          · have hother : step ≠ first := fun heq => hfirst (heq.symm.trans hstep)
            subst hstep
            simp [hother]
          · rw [branch?_cons_of_ne _ _ _ _ hstep, branch?_cons_of_ne _ _ _ _ hstep]
            exact ihSiblings (first :: more) (step :: later)

end Forest

namespace Store

/-- What is stored where the names lead from the root, and the names of the children there. -/
def branch? (store : Store) : List String → Option (Entry × List String)
  | [] => some (store.root, store.children.names)
  | way => store.children.branch? way

variable {store : Store}

/-- What is found at a path is what is stored at its branch. -/
theorem find?_eq_branch? (store : Store) (path : String) :
    store.find? path = (Path.names? path).bind fun way => (store.branch? way).map (·.1) := by
  rw [find?]
  split
  · next h => rw [h]; rfl
  · next way hne h =>
    rw [h, Option.bind_some, Forest.find?_eq_branch?]
    cases way with
    | nil => exact absurd rfl hne
    | cons first more => rfl
  · next h => rw [h]; rfl

/-- The names that lead to a branch are steps. -/
theorem WellFormed.steps_of_branch? (h : store.WellFormed) {way : List String}
    (hbranch : (store.branch? way).isSome) : ∀ step ∈ way, Path.IsStep step := by
  cases way with
  | nil => nofun
  | cons first more =>
    have hfound : (store.children.find? (first :: more)).isSome := by
      rw [Forest.find?_eq_branch?, Option.isSome_map]
      exact hbranch
    obtain ⟨entry, hentry⟩ := Option.isSome_iff_exists.mp hfound
    exact (Forest.WellFormed.steps h ((Forest.WellFormed.mem_places_iff h _ _).mpr hentry)).2

/-- A node that is added is a branch without children, and its name is the last one at its
parent. -/
theorem branch?_addBelow {new : String} {way : List String} (hparent : (store.branch? way).isSome)
    (hfree : store.branch? (way ++ [new]) = none) (entry : Entry) (other : List String) :
    branch? { store with children := store.children.addBelow new entry way } other =
      if other = way ++ [new] then some (entry, [])
      else if other = way then (store.branch? way).map fun old => (old.1, old.2 ++ [new])
      else store.branch? other := by
  have hbelow : store.children.branch? (way ++ [new]) = none := by
    cases way <;> exact hfree
  have habove : way ≠ [] → (store.children.branch? way).isSome := by
    cases way with
    | nil => exact absurd rfl
    | cons first more => exact fun _ => hparent
  have hforest := Forest.branch?_addBelow habove hbelow entry
  cases other with
  | nil =>
    cases way with
    | nil => simp [branch?, Forest.names_addBelow_nil]
    | cons first more => simp [branch?, Forest.names_addBelow]
  | cons step later =>
    rw [branch?, hforest]
    · cases way <;> simp [branch?]
    · nofun

/-- A change of what is stored is seen at one branch only. -/
theorem branch?_modify (store : Store) {path : String} {way : List String}
    (hway : Path.names? path = some way) (change : Entry → Entry) (other : List String) :
    (store.modify path change).branch? other =
      if other = way then (store.branch? way).map fun old => (change old.1, old.2)
      else store.branch? other := by
  rw [modify, hway]
  cases way with
  | nil => cases other <;> simp [branch?]
  | cons first more =>
    cases other with
    | nil => simp [branch?, Forest.names_modify]
    | cons step later => exact Forest.branch?_modify change _ _ _

end Store

end ContentQuery
