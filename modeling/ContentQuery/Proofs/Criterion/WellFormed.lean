import ContentQuery.Proofs.Criterion.Built
import ContentQuery.Proofs.Path

/-!
# Well-formed criteria

What the checked constructors promise of every part of a criterion: accepted names, bounds that have
an order and are in it, and paths that can be scopes. A criterion may be any tree of such parts.
-/

namespace ContentQuery

namespace Property

/-- An accepted property is what every name with its bare name stands for. -/
theorem Accepted.ofName_eq {p : Property} (h : p.Accepted) {name : String}
    (hname : bareName name.toList = p.name.toList) : ofName name = .ok p := by
  obtain ⟨hne, hlegal⟩ := h.plain
  have hfind : p.name.toList.find? isIllegal = none := by
    rw [List.find?_eq_none]
    intro c hc
    rw [hlegal c hc]
    exact Bool.false_ne_true
  simp only [ofName, hname, List.isEmpty_eq_false_iff.mpr hne, Bool.false_eq_true, if_false, hfind,
    String.ofList_toList]
  split
  · next hdot =>
    have hnode : p.name = "." := String.toList_inj.mp hdot
    rw [node, ← hnode]
  · rfl

/-- The name of an accepted property is accepted as it is. -/
theorem Accepted.ofName_name {p : Property} (h : p.Accepted) : ofName p.name = .ok p := by
  apply h.ofName_eq
  unfold bareName
  split
  · next rest heq =>
    have hmark := h.plain.2 '@' (by rw [heq]; exact List.mem_cons_self)
    simp [isIllegal, reserved] at hmark
  · rfl

/-- The shown form of an accepted property stands for it. -/
theorem Accepted.ofName_describe {p : Property} (h : p.Accepted) : ofName p.describe = .ok p := by
  by_cases hnode : p.isNode = true
  · have hname : p.name = "." := of_decide_eq_true hnode
    have hp : p = node := congrArg Property.mk hname
    rw [hp]
    rfl
  · apply h.ofName_eq
    rw [describe, if_neg hnode, String.toList_append]
    rfl

/-- A reference to a stored property: its name is accepted, and it is not the node itself. -/
structure IsStored (p : Property) : Prop where
  accepted : ofName p.name = .ok p
  notNode : p.name ≠ "."

end Property

/-- Bounds of a range: they have an order, and the lower one is no greater. -/
structure Value.AreBounds (lower upper : Value) : Prop where
  lowerOrdered : ∀ b, lower ≠ .boolean b
  upperOrdered : ∀ b, upper ≠ .boolean b
  ordered : lower.compare upper = some .lt ∨ lower.compare upper = some .eq

namespace Criterion

/-- A criterion of which every part is well formed. -/
inductive WellFormed : Criterion → Prop
  | comparison {p : Property} (op : Comparator) (v : Value) (hp : p.IsStored) :
    WellFormed (.comparison p op v)
  | range {p : Property} {l u : Value} (hp : p.IsStored) (hbounds : l.AreBounds u) :
    WellFormed (.range p l u)
  | patternMatch {p : Property} (s : String) (mode : MatchMode) (hp : p.IsStored) :
    WellFormed (.patternMatch p s mode)
  | presence {p : Property} (present : Bool) (hp : p.IsStored) : WellFormed (.presence p present)
  | anyOf {p : Property} (texts : List String) (hp : p.IsStored) : WellFormed (.anyOf p texts)
  | containment {p : Property} (s : String) (hp : Property.ofName p.name = .ok p) :
    WellFormed (.containment p s)
  | descendantOf {path : String} (hpath : Path.IsScope path) : WellFormed (.descendantOf path)
  | not {inner : Criterion} (h : WellFormed inner) : WellFormed (.not inner)
  | junction (k : Connective) {clauses : List Criterion} (h : ∀ c ∈ clauses, WellFormed c) :
    WellFormed (.junction k clauses)

/-- An accepted property that passes for a real one is stored. -/
theorem isStored_of_named {p q : Property} (hp : p.Accepted) (h : named p = .ok q) :
    q.IsStored := by
  rw [named] at h
  split at h
  · cases h
  · next hself =>
    cases h
    exact ⟨hp.ofName_name, fun heq => hself (decide_eq_true heq)⟩

/-- What a constructor makes of a real property is well formed if it is for stored ones. -/
theorem wellFormed_of_map_named {p : Property} {make : Property → Criterion} {c : Criterion}
    (hp : p.Accepted) (hmake : ∀ q : Property, q.IsStored → (make q).WellFormed)
    (h : (named p).map make = .ok c) : c.WellFormed := by
  obtain ⟨q, hq, rfl⟩ := Result.map_eq_ok.mp h
  exact hmake q (isStored_of_named hp hq)

/-- Values that pass the check on bounds are bounds. -/
theorem areBounds_of_check {p : Property} {l u : Value} (h : checkBounds p l u = .ok ()) :
    l.AreBounds u := by
  unfold checkBounds at h
  split at h
  · cases h
  · cases h
  · next hlower hupper =>
    refine ⟨hlower, hupper, ?_⟩
    cases hcompare : l.compare u with
    | none =>
      rw [hcompare] at h
      cases h
    | some o =>
      rw [hcompare] at h
      cases o with
      | lt => exact .inl rfl
      | eq => exact .inr rfl
      | gt => cases h

/-- A checked range is well formed. -/
theorem wellFormed_of_ofRange {p : Property} {l u : Value} {c : Criterion} (hp : p.Accepted)
    (h : ofRange p l u = .ok c) : c.WellFormed := by
  obtain ⟨q, hq, h⟩ := Result.bind_eq_ok.mp h
  obtain ⟨⟨⟩, hbounds, h⟩ := Result.bind_eq_ok.mp h
  cases h
  exact .range (isStored_of_named hp hq) (areBounds_of_check hbounds)

/-- A checked path is well formed. -/
theorem wellFormed_of_ofPath {path : String} {c : Criterion} (h : ofPath path = .ok c) :
    c.WellFormed := by
  obtain ⟨normal, hnormal, rfl⟩ := Result.map_eq_ok.mp h
  exact .descendantOf (Path.isScope_of_normalize hnormal)

/-- A criterion that is made with the checked constructors is well formed. -/
theorem Built.wellFormed {c : Criterion} (h : c.Built) : c.WellFormed := by
  induction h with
  | comparison hp _ h => exact wellFormed_of_map_named hp (fun _ hq => .comparison _ _ hq) h
  | range hp _ _ h => exact wellFormed_of_ofRange hp h
  | patternMatch hp h => exact wellFormed_of_map_named hp (fun _ hq => .patternMatch _ _ hq) h
  | presence hp h => exact wellFormed_of_map_named hp (fun _ hq => .presence _ hq) h
  | falsy hp h =>
    refine wellFormed_of_map_named hp (fun q hq => .junction .or fun c hc => ?_) h
    rcases List.mem_cons.mp hc with rfl | hc
    · exact .presence false hq
    · obtain rfl := List.mem_singleton.mp hc
      exact .comparison .eq (.boolean false) hq
  | anyOf hp h => exact wellFormed_of_map_named hp (fun _ hq => .anyOf _ hq) h
  | containment s hp => exact .containment s hp.ofName_name
  | descendantOf h => exact wellFormed_of_ofPath h
  | not _ ih => exact .not ih
  | junction k _ ih => exact .junction k ih

end Criterion

end ContentQuery
