import ContentQuery.Proofs.Number.Digits
import ContentQuery.Repository.Node
import ContentQuery.Statement.Request

/-!
# What requests are checked for

A request passes the check of its type only if it has none or one without reserved characters, and
its scope is its base path, unless that is the root.
-/

namespace ContentQuery

/-- Whether a node is below a scope; all nodes are below none. -/
def Node.isWithin (n : Node) (scope : Option String) : Bool := scope.all (Path.isBelow n.path)

namespace Request

/-- A reserved character is in no name of a type. -/
theorem ne_of_mem_typeName {name : String} (h : isTypeName name = true) {c d : Char}
    (hc : c ∈ name.toList) (hd : reservedInType.contains d = true) : c ≠ d := by
  rw [isTypeName, Bool.and_eq_true] at h
  have hplain := List.all_eq_true.mp h.2 c hc
  rw [Bool.not_eq_true', Bool.or_eq_false_iff] at hplain
  have hne : d ≠ c := Text.ne_of_kind hd hplain.2
  exact hne.symm

/-- The type that passes the check is the one of the request, and the name of a type. -/
theorem checkedType_eq_ok {r : Request} {type : Option String} (h : r.checkedType = .ok type) :
    type = r.nodeType ∧ ∀ name ∈ type, isTypeName name = true := by
  rw [checkedType] at h
  split at h
  · next name hname =>
    split at h
    · next hlegal =>
      cases h
      refine ⟨hname.symm, fun other hother => ?_⟩
      cases hother
      exact hlegal
    · cases h
  · next hnone =>
    cases h
    exact ⟨hnone.symm, nofun⟩

/-- A node is within the scope of a request if it is below the base path; all nodes are below the
root. -/
theorem isWithin_scope (r : Request) (n : Node) :
    n.isWithin r.scope = true ↔
      ∀ base ∈ r.basePath, base ≠ Path.root → Path.isBelow n.path base = true := by
  rw [scope, Node.isWithin]
  cases r.basePath with
  | none => simp
  | some base =>
    by_cases hroot : base = Path.root <;> simp [Option.filter, Path.isRoot, hroot]

end Request

end ContentQuery
