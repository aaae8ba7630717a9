import ContentQuery.Repository.Store

/-!
# Updates

The nodes of a repository may be kept in one form or another. In every form it is updated by adding
a node, by setting a property and by loading a listing. A run of updates goes on after those that
are refused.
-/

namespace ContentQuery

/-- How a repository is updated whose states are of a type. -/
structure Updates (σ : Type) where
  /-- Adds a node and answers its path. -/
  add (state : σ) (parent name primaryType : String) : Result (String × σ)
  /-- Sets a property of a node. -/
  set (state : σ) (path name : String) (value : Value) : Result σ
  /-- Loads a listing, up to the first node that is refused. -/
  load (state : σ) (specs : List NodeSpec) : σ × Result Unit

/-- The updates of a store. -/
def Store.updates : Updates Store := ⟨Store.add, Store.set, Store.load⟩

/-- What can be asked of a repository that changes it. -/
inductive Update where
  | add (parent name primaryType : String)
  | set (path name : String) (value : Value)
  | load (specs : List NodeSpec)

namespace Updates

variable {σ : Type} (u : Updates σ)

/-- Makes an update. The answer has the path of a node that was added, and the state is the old one
if nothing was done. -/
def apply (state : σ) : Update → Result (Option String) × σ
  | .add parent name primaryType =>
    match u.add state parent name primaryType with
    | .ok (path, next) => (.ok (some path), next)
    | .error e => (.error e, state)
  | .set path name value =>
    match u.set state path name value with
    | .ok next => (.ok none, next)
    | .error e => (.error e, state)
  | .load specs =>
    let (next, done) := u.load state specs
    (done.map fun () => none, next)

/-- Makes updates one after another, each of them after those that were refused too. -/
def run (state : σ) : List Update → List (Result (Option String)) × σ
  | [] => ([], state)
  | update :: later =>
    let (answer, next) := u.apply state update
    let (answers, last) := run next later
    (answer :: answers, last)

end Updates

end ContentQuery
