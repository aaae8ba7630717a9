import ContentQuery.Proofs.Error
import ContentQuery.Repository.Update

/-!
# Repositories that are updated alike

Two forms of a repository give the same answers to every run of updates if there is a relation of
their states that each single update keeps, with the same answer. A listing is loaded by adding
nodes and setting properties, so these two are enough.
-/

namespace ContentQuery

variable {σ τ : Type}

/-- Two ways to add nodes answer alike and keep a relation of states. -/
def AddAlike (R : σ → τ → Prop) (add : σ → String → String → String → Result (String × σ))
    (add' : τ → String → String → String → Result (String × τ)) : Prop :=
  ∀ {s t}, R s t → ∀ parent name primaryType,
    Result.Related (fun a b => a.1 = b.1 ∧ R a.2 b.2) (add s parent name primaryType)
      (add' t parent name primaryType)

/-- Two ways to set properties answer alike and keep a relation of states. -/
def SetAlike (R : σ → τ → Prop) (set : σ → String → String → Value → Result σ)
    (set' : τ → String → String → Value → Result τ) : Prop :=
  ∀ {s t}, R s t → ∀ path name value,
    Result.Related R (set s path name value) (set' t path name value)

namespace Listing

variable {R : σ → τ → Prop} {add : σ → String → String → String → Result (String × σ)}
  {add' : τ → String → String → String → Result (String × τ)}
  {set : σ → String → String → Value → Result σ} {set' : τ → String → String → Value → Result τ}
  {s : σ} {t : τ}

/-- Properties are set alike if each of them is. -/
theorem setAll_alike (hset : SetAlike R set set') (h : R s t) (path : String)
    (properties : Properties) :
    (setAll set s path properties).2 = (setAll set' t path properties).2 ∧
      R (setAll set s path properties).1 (setAll set' t path properties).1 := by
  induction properties generalizing s t with
  | nil => exact ⟨rfl, h⟩
  | cons property rest ih =>
    obtain ⟨name, value⟩ := property
    rw [setAll, setAll]
    obtain ⟨next, next', hs, ht, hnext⟩ | ⟨e, hs, ht⟩ := (hset h path name value).ok_or_error
    · rw [hs, ht]
      exact ih hnext
    · rw [hs, ht]
      exact ⟨rfl, h⟩

/-- Nodes that are described are added alike. -/
theorem addSpec_alike (hadd : AddAlike R add add') (h : R s t) (path : String)
    (primaryType : Option String) :
    Result.Related R (addSpec add s path primaryType) (addSpec add' t path primaryType) := by
  rw [addSpec, addSpec]
  split
  · exact .ok h
  · obtain ⟨added, added', hs, ht, -, hnext⟩ | ⟨e, hs, ht⟩ := (hadd h (Path.parent path)
      (Path.lastName path) (primaryType.getD unstructured)).ok_or_error
    · rw [hs, ht]
      exact .ok hnext
    · rw [hs, ht]
      exact .error e

/-- Nodes with their properties are loaded alike. -/
theorem loadOne_alike (hadd : AddAlike R add add') (hset : SetAlike R set set') (h : R s t)
    (spec : NodeSpec) :
    (loadOne add set s spec).2 = (loadOne add' set' t spec).2 ∧
      R (loadOne add set s spec).1 (loadOne add' set' t spec).1 := by
  rw [loadOne, loadOne]
  cases Path.normalize spec.path with
  | error e => exact ⟨rfl, h⟩
  | ok path =>
    obtain ⟨next, next', hs, ht, hnext⟩ | ⟨e, hs, ht⟩ :=
      (addSpec_alike hadd h path spec.primaryType).ok_or_error
    · simp only [hs, ht]
      exact setAll_alike hset hnext path spec.properties
    · simp only [hs, ht]
      exact ⟨trivial, h⟩

/-- Listings are loaded alike. -/
theorem load_alike (hadd : AddAlike R add add') (hset : SetAlike R set set') (h : R s t)
    (specs : List NodeSpec) :
    (load add set s specs).2 = (load add' set' t specs).2 ∧
      R (load add set s specs).1 (load add' set' t specs).1 := by
  induction specs generalizing s t with
  | nil => exact ⟨rfl, h⟩
  | cons spec rest ih =>
    obtain ⟨hdone, hnext⟩ := loadOne_alike hadd hset h spec
    rw [load, load]
    rcases hs : loadOne add set s spec with ⟨nextS, doneS⟩
    rcases ht : loadOne add' set' t spec with ⟨nextT, doneT⟩
    rw [hs, ht] at hdone hnext
    obtain rfl := hdone
    cases doneS with
    | error e => exact ⟨rfl, hnext⟩
    | ok done => exact ih hnext

end Listing

namespace Updates

/-- The updates of two forms of a repository answer alike and keep a relation of states. -/
structure Alike (R : σ → τ → Prop) (u : Updates σ) (v : Updates τ) : Prop where
  add : AddAlike R u.add v.add
  set : SetAlike R u.set v.set
  load : ∀ {s t}, R s t → ∀ specs,
    (u.load s specs).2 = (v.load t specs).2 ∧ R (u.load s specs).1 (v.load t specs).1

namespace Alike

variable {R : σ → τ → Prop} {u : Updates σ} {v : Updates τ} {s : σ} {t : τ}

/-- An update is answered alike, and the states are related afterwards. -/
theorem apply (hu : Alike R u v) (h : R s t) (update : Update) :
    (u.apply s update).1 = (v.apply t update).1 ∧
      R (u.apply s update).2 (v.apply t update).2 := by
  cases update with
  | add parent name primaryType =>
    obtain ⟨⟨path, next⟩, ⟨path', next'⟩, hs, ht, hpath, hnext⟩ | ⟨e, hs, ht⟩ :=
      (hu.add h parent name primaryType).ok_or_error
    · obtain rfl : path = path' := hpath
      simp only [Updates.apply, hs, ht]
      exact ⟨trivial, hnext⟩
    · simp only [Updates.apply, hs, ht]
      exact ⟨trivial, h⟩
  | set path name value =>
    obtain ⟨next, next', hs, ht, hnext⟩ | ⟨e, hs, ht⟩ :=
      (hu.set h path name value).ok_or_error
    · simp only [Updates.apply, hs, ht]
      exact ⟨trivial, hnext⟩
    · simp only [Updates.apply, hs, ht]
      exact ⟨trivial, h⟩
  | load specs =>
    obtain ⟨hdone, hnext⟩ := hu.load h specs
    exact ⟨congrArg (Except.map fun _ => none) hdone, hnext⟩

/-- A run of updates is answered alike, and the states are related afterwards. -/
theorem run (hu : Alike R u v) (h : R s t) (updates : List Update) :
    (u.run s updates).1 = (v.run t updates).1 ∧
      R (u.run s updates).2 (v.run t updates).2 := by
  induction updates generalizing s t with
  | nil => exact ⟨rfl, h⟩
  | cons update later ih =>
    obtain ⟨hanswer, hnext⟩ := hu.apply h update
    obtain ⟨hanswers, hlast⟩ := ih hnext
    exact ⟨congrArg₂ List.cons hanswer hanswers, hlast⟩

end Alike

end Updates

end ContentQuery
