import ContentQuery.Repository.Store

/-!
# Stores that can be reached

A store is reached from the empty one by adding nodes and by setting properties, and so it is by
loading listings, which add nodes and set properties until one is refused.
-/

namespace ContentQuery

namespace Store

/-- A store that is reached from the empty one, update by update. -/
inductive Reachable : Store → Prop
  | empty : Reachable empty
  | add {store next : Store} {parent name primaryType path : String} (h : Reachable store)
    (hadd : store.add parent name primaryType = .ok (path, next)) : Reachable next
  | set {store next : Store} {path name : String} {value : Value} (h : Reachable store)
    (hset : store.set path name value = .ok next) : Reachable next

namespace Reachable

variable {store : Store}

/-- Properties that are set one by one lead from store to store, up to one that is refused. -/
theorem setAll (h : store.Reachable) (path : String) (properties : Properties) :
    (Listing.setAll Store.set store path properties).1.Reachable := by
  induction properties generalizing store with
  | nil => exact h
  | cons property rest ih =>
    obtain ⟨name, value⟩ := property
    rw [Listing.setAll]
    cases hset : store.set path name value with
    | error e => exact h
    | ok next => exact ih (h.set hset)

/-- So do nodes that are described. -/
theorem addSpec (h : store.Reachable) {path : String} {primaryType : Option String} {next : Store}
    (hadd : Listing.addSpec Store.add store path primaryType = .ok next) : next.Reachable := by
  rw [Listing.addSpec] at hadd
  split at hadd
  · cases hadd
    exact h
  · cases hnew : store.add (Path.parent path) (Path.lastName path)
      (primaryType.getD unstructured) with
    | error e => rw [hnew] at hadd; cases hadd
    | ok added =>
      rw [hnew] at hadd
      cases hadd
      exact h.add hnew

/-- A node with its properties is loaded as far as nothing is refused. -/
theorem loadOne (h : store.Reachable) (spec : NodeSpec) :
    (Listing.loadOne Store.add Store.set store spec).1.Reachable := by
  rw [Listing.loadOne]
  cases Path.normalize spec.path with
  | error e => exact h
  | ok path =>
    cases hadd : Listing.addSpec Store.add store path spec.primaryType with
    | error e => simpa only [hadd] using h
    | ok next => simpa only [hadd] using (h.addSpec hadd).setAll path spec.properties

/-- A listing is loaded as far as nothing is refused. -/
theorem load (h : store.Reachable) (specs : List NodeSpec) : (store.load specs).1.Reachable := by
  induction specs generalizing store with
  | nil => exact h
  | cons spec rest ih =>
    have hone := h.loadOne spec
    rw [Store.load, Listing.load]
    rcases hload : Listing.loadOne Store.add Store.set store spec with ⟨next, _ | _⟩
    · rw [hload] at hone
      exact hone
    · rw [hload] at hone
      exact ih hone

end Reachable

/-- The store of the root and one node below it, without properties. -/
def single (primaryType : String) : Store :=
  ⟨⟨unstructured, []⟩, .cons "a" ⟨primaryType, []⟩ .nil .nil⟩

/-- The store of one node is reached in one step. -/
theorem reachable_single (primaryType : String) : (single primaryType).Reachable := by
  have hadd : empty.add "/" "a" primaryType = .ok ("/a", single primaryType) := rfl
  exact .add .empty hadd

end Store

end ContentQuery
