import ContentQuery.Proofs.Criterion.Paths
import ContentQuery.Proofs.Json.Criterion
import ContentQuery.Proofs.Json.Value

/-!
# Written criteria are read back

A well-formed criterion is written as an object of its kind, whose fields lead back to it through
the checked constructor. Doubles are left out, and the paths have to be in normal form.
-/

namespace ContentQuery

namespace Criterion

/-- Whether a criterion can be read back: its operands are exact and its paths in normal form. -/
structure IsExact (c : Criterion) : Prop where
  operands : ∀ v, c.HasOperand v → v.IsExact
  paths : ∀ path, c.HasPath path → Path.normalize path = .ok path

/-- What is negated can be read back too. -/
theorem IsExact.of_not {inner : Criterion} (h : (not inner).IsExact) : inner.IsExact :=
  ⟨fun v hv => h.operands v (.not hv), fun path hpath => h.paths path (.not hpath)⟩

/-- Clauses can be read back if their junction can. -/
theorem IsExact.of_junction {k : Connective} {clauses : List Criterion}
    (h : (junction k clauses).IsExact) {c : Criterion} (hc : c ∈ clauses) : c.IsExact :=
  ⟨fun v hv => h.operands v (.junction k hc hv),
    fun path hpath => h.paths path (.junction k hc hpath)⟩

/-- A junction can be read back if all of its clauses can. -/
theorem IsExact.junction (k : Connective) {clauses : List Criterion}
    (h : ∀ c ∈ clauses, c.IsExact) : (Criterion.junction k clauses).IsExact := by
  constructor
  · intro v hv
    obtain _ | _ | _ | _ | ⟨-, hc, hv⟩ := hv
    exact (h _ hc).operands v hv
  · intro path hpath
    obtain _ | _ | ⟨-, hc, hpath⟩ := hpath
    exact (h _ hc).paths path hpath

/-- A negation can be read back if what it negates can. -/
theorem IsExact.not {inner : Criterion} (h : inner.IsExact) : (Criterion.not inner).IsExact := by
  constructor
  · intro v hv
    obtain _ | _ | _ | hv | _ := hv
    exact h.operands v hv
  · intro path hpath
    obtain _ | hpath | _ := hpath
    exact h.paths path hpath

/-- Clauses are written one by one. -/
@[simp] theorem toJsonAll_eq (clauses : List Criterion) :
    toJsonAll clauses = clauses.map toJson := by
  induction clauses with
  | nil => rfl
  | cons c rest ih => rw [toJsonAll, ih, List.map_cons]

/-- A criterion without doubles is written as a plain document. -/
theorem IsExact.plain_toJson {c : Criterion} (h : c.IsExact) : c.toJson.Plain := by
  induction c with
  | comparison p op v =>
    have hv := (h.operands v (.comparison p op v)).plain_toJson
    exact .record (by simp [Json.Plain.text, Property.toJson, hv])
  | range p l u =>
    have hl := (h.operands l (.lower p l u)).plain_toJson
    have hu := (h.operands u (.upper p l u)).plain_toJson
    exact .record (by simp [Json.Plain.text, Property.toJson, hl, hu])
  | patternMatch p s mode => exact .record (by simp [Json.Plain.text, Property.toJson])
  | presence p present =>
    exact .record (by simp [Json.Plain.text, Json.Plain.boolean, Property.toJson])
  | anyOf p texts =>
    have htexts : (Json.array (texts.map .ofString)).Plain := .array (by simp [Json.Plain.text])
    exact .record (by simp [Json.Plain.text, Property.toJson, htexts])
  | containment p s => exact .record (by simp [Json.Plain.text, Property.toJson])
  | descendantOf path => exact .record (by simp [Json.Plain.text])
  | not inner ih =>
    have hinner := ih h.of_not
    exact .record (by simp [Json.Plain.text, hinner])
  | junction k clauses ih =>
    have hclauses : (Json.array (clauses.map toJson)).Plain := by
      refine .array fun item hitem => ?_
      obtain ⟨c, hc, rfl⟩ := List.mem_map.mp hitem
      exact ih c hc (h.of_junction hc)
    exact .record (by simp [Json.Plain.text, hclauses])

/-- A part of a document keeps its document. -/
@[simp] theorem json_view (j : Json) : (view j).json = j := by
  cases j <;> rfl

/-- A criterion is read from its document, inside another criterion and alone. -/
def IsRead (c : Criterion) : Prop :=
  ∃ members, c.toJson = .object members ∧
    ∀ inside, ofMembers inside (viewMembers members) = .ok c

/-- Such a criterion is what a part of a document is as a criterion. -/
theorem IsRead.criterion_view {c : Criterion} (h : c.IsRead) :
    (view c.toJson).criterion = .ok c := by
  obtain ⟨members, hmembers, hread⟩ := h
  rw [hmembers]
  exact hread true

/-- Clauses are what a part of a document is as a list of criteria. -/
theorem clauses_view {clauses : List Criterion} (h : ∀ c ∈ clauses, c.IsRead) :
    (view (.array (toJsonAll clauses))).clauses = .ok clauses := by
  rw [view, viewItems_eq, toJsonAll_eq, List.map_map]
  exact Json.eachOf_map fun c hc => (h c hc).criterion_view

/-- A field that is read from the document itself. -/
theorem read_field {α : Type} {name : String} {read : Json → Read α} {put : Parts → α → Parts}
    {j : Json} {a : α} (h : read j = .ok a) (parts : Parts) :
    (field name read put).read (view j) parts = .ok (put parts a) := by
  have hread : read (view j).json = .ok a := by rw [json_view, h]
  exact congrArg (Except.map (put parts)) hread

/-- The fields of a kind have different names, and none that names the kind; what the kind needs is
among them. -/
theorem names_of_mem_kinds {kind : Kind} (h : kind ∈ kinds) :
    (kind.fields.map Json.Field.name).Nodup ∧ "kind" ∉ kind.fields.map Json.Field.name ∧
      ∀ name ∈ kind.needed, name ∈ kind.fields.map Json.Field.name := by
  simp only [kinds, List.mem_cons, List.not_mem_nil, or_false] at h
  rcases h with rfl | rfl | rfl | rfl | rfl | rfl | rfl | rfl | rfl <;> decide

/-- A kind makes a criterion of its own members. -/
theorem ofMembers_of_kind {name : String} {kind : Kind} {parts : Parts} {c : Criterion}
    {others : List (Option String × View)} (inside : Bool)
    (hkind : kinds.find? (·.name = name) = some kind) (hothers : ∀ m ∈ others, isKind m = false)
    (hfields : kind.shape.ofMembers (fun _ => true) others = .ok parts)
    (hbuild : kind.build parts = .ok c) :
    ofMembers inside ((some "kind", view (.ofString name)) :: others) = .ok c := by
  have hfirst : isKind (some "kind", view (.ofString name)) = true := rfl
  have hnone : others.filter isKind = [] := by
    rw [List.filter_eq_nil_iff]
    intro m hm
    rw [hothers m hm]
    exact Bool.false_ne_true
  have hall : others.filter (!isKind ·) = others := by
    rw [List.filter_eq_self]
    intro m hm
    rw [hothers m hm]
    rfl
  have hkindOf : kindOf inside (view (.ofString name)).json = .ok kind := by
    rw [json_view, Json.ofString, kindOf, hkind]
  rw [ofMembers, List.filter_cons_of_pos hfirst, hnone]
  dsimp only
  rw [hkindOf, List.filter_cons_of_neg (by simp [hfirst]), hall]
  simp only [bind, Except.bind, hfields, hbuild]
  rfl

/-- An object that names a kind and has all of its fields is read as what the kind makes of them. -/
theorem isRead_of_kind {c : Criterion} (name : String) {kind : Kind} {parts : Parts}
    {members : List (String × Json)} (hkind : kinds.find? (·.name = name) = some kind)
    (hjson : c.toJson = .record (("kind", .ofString name) :: members))
    (hnames : members.map Prod.fst = kind.fields.map Json.Field.name)
    (hread : Json.ReadsTo kind.fields .start (members.map fun m => (m.1, view m.2)) parts)
    (hbuild : kind.build parts = .ok c) : c.IsRead := by
  refine ⟨_, hjson, fun inside => ?_⟩
  obtain ⟨hnodup, hother, hneeded⟩ := names_of_mem_kinds (List.mem_of_find?_eq_some hkind)
  have hviews : (members.map fun m => (m.1, view m.2)).map Prod.fst =
      kind.fields.map Json.Field.name := by
    rw [← hnames, List.map_map]
    rfl
  have hparts : kind.shape.ofMembers (fun _ => true)
      ((members.map fun m => (m.1, view m.2)).map fun m => (some m.1, m.2)) = .ok parts :=
    hread.ofMembers_eq _ (hviews ▸ hnodup) (hviews ▸ hneeded)
  have hplain : ∀ m ∈ (members.map fun m => (m.1, view m.2)).map fun m => (some m.1, m.2),
      isKind m = false := by
    intro m hm
    rw [List.map_map] at hm
    obtain ⟨member, hmember, rfl⟩ := List.mem_map.mp hm
    have hname : member.1 ≠ "kind" := by
      intro heq
      apply hother
      rw [← hnames, ← heq]
      exact List.mem_map_of_mem hmember
    simpa [isKind] using hname
  rw [List.map_map] at hparts hplain
  rw [viewMembers_eq, List.map_map]
  exact ofMembers_of_kind inside hkind hplain hparts hbuild

/-- The names of comparisons are read back. -/
theorem asName_comparator (op : Comparator) :
    asName Comparator.names (.ofString op.name) = .ok op := by
  cases op <;> rfl

/-- The names of match modes are read back. -/
theorem asName_matchMode (mode : MatchMode) :
    asName MatchMode.keys (.ofString mode.key) = .ok mode := by
  cases mode <;> rfl

/-- The names of connectives are read back. -/
theorem asName_connective (k : Connective) :
    asName Connective.names (.ofString k.name) = .ok k := by
  cases k <;> rfl

/-- A list of texts is read back. -/
theorem asList_texts (texts : List String) :
    Json.asList Json.asString (.array (texts.map .ofString)) = .ok texts :=
  Json.eachOf_map fun _ _ => rfl

/-- A constructor that asks for a real property makes its criterion of a stored one. -/
theorem map_named_of_isStored {p : Property} (h : p.IsStored) (make : Property → Criterion) :
    (named p).map make = .ok (make p) := by
  have hnode : ¬ p.isNode = true := fun hnode => h.notNode (of_decide_eq_true hnode)
  rw [named, if_neg hnode]
  rfl

/-- Bounds pass their check. -/
theorem checkBounds_of_areBounds {l u : Value} (h : l.AreBounds u) (p : Property) :
    checkBounds p l u = .ok () := by
  unfold checkBounds
  split
  · next b => exact absurd rfl (h.lowerOrdered b)
  · next b _ => exact absurd rfl (h.upperOrdered b)
  · rcases h.ordered with hcompare | hcompare <;> rw [hcompare]

/-- Bounds of a stored property make a range. -/
theorem ofRange_of_areBounds {p : Property} (hp : p.IsStored) {l u : Value} (h : l.AreBounds u) :
    ofRange p l u = .ok (range p l u) := by
  have hnode : ¬ p.isNode = true := fun hnode => hp.notNode (of_decide_eq_true hnode)
  rw [ofRange, named, if_neg hnode]
  simp only [bind, Except.bind, checkBounds_of_areBounds h]
  rfl

/-- A well-formed criterion that can be read back is. -/
theorem WellFormed.isRead {c : Criterion} (h : c.WellFormed) (hexact : c.IsExact) : c.IsRead := by
  have hstored {p : Property} (hp : p.IsStored) : Property.ofJson p.toJson = .ok p :=
    Property.Accepted.ofJson_toJson ⟨p.name, hp.accepted⟩
  have htext (s : String) : Json.asString (.ofString s) = .ok s := rfl
  induction h with
  | @comparison p op v hp =>
    have hv := (hexact.operands v (.comparison p op v)).ofJson_toJson
    exact isRead_of_kind "comparison" rfl rfl rfl
      (.cons rfl (read_field (hstored hp) _) (.cons rfl (read_field (asName_comparator op) _)
        (.cons rfl (read_field hv _) (.nil _))))
      (map_named_of_isStored hp fun q => .comparison q op v)
  | @range p l u hp hbounds =>
    have hl := (hexact.operands l (.lower p l u)).ofJson_toJson
    have hu := (hexact.operands u (.upper p l u)).ofJson_toJson
    exact isRead_of_kind "range" rfl rfl rfl
      (.cons rfl (read_field (hstored hp) _) (.cons rfl (read_field hl _)
        (.cons rfl (read_field hu _) (.nil _))))
      (ofRange_of_areBounds hp hbounds)
  | @patternMatch p s mode hp =>
    exact isRead_of_kind "pattern_match" rfl rfl rfl
      (.cons rfl (read_field (hstored hp) _) (.cons rfl (read_field (htext s) _)
        (.cons rfl (read_field (asName_matchMode mode) _) (.nil _))))
      (map_named_of_isStored hp fun q => .patternMatch q s mode)
  | @presence p present hp =>
    have hpresent : Json.asBool (.boolean present) = .ok present := rfl
    exact isRead_of_kind "null_check" rfl rfl rfl
      (.cons rfl (read_field (hstored hp) _) (.cons rfl (read_field hpresent _) (.nil _)))
      (map_named_of_isStored hp fun q => .presence q present)
  | @anyOf p texts hp =>
    exact isRead_of_kind "set_membership" rfl rfl rfl
      (.cons rfl (read_field (hstored hp) _)
        (.cons rfl (read_field (asList_texts texts) _) (.nil _)))
      (map_named_of_isStored hp fun q => .anyOf q texts)
  | @containment p s hp =>
    have hproperty : Property.ofJson p.toJson = .ok p :=
      Property.Accepted.ofJson_toJson ⟨p.name, hp⟩
    exact isRead_of_kind "containment" rfl rfl rfl
      (.cons rfl (read_field hproperty _) (.cons rfl (read_field (htext s) _) (.nil _))) rfl
  | @descendantOf path hpath =>
    have hnormal := hexact.paths path (.descendantOf path)
    have hbuild : ofPath path = .ok (.descendantOf path) := by
      rw [ofPath, hnormal]
      rfl
    exact isRead_of_kind "descendant_of" rfl rfl rfl
      (.cons rfl (read_field (htext path) _) (.nil _)) hbuild
  | @not inner _ ih =>
    have hinner : innerField.read (view inner.toJson) .start =
        .ok { Parts.start with inner := inner } :=
      congrArg (Except.map _) (ih hexact.of_not).criterion_view
    exact isRead_of_kind "not" rfl rfl rfl (.cons rfl hinner (.nil _)) rfl
  | @junction k clauses _ ih =>
    have hclauses := clauses_view fun c hc => ih c hc (hexact.of_junction hc)
    exact isRead_of_kind "junction" rfl rfl rfl
      (.cons rfl (read_field (asName_connective k) _)
        (.cons rfl (congrArg (Except.map _) hclauses) (.nil _))) rfl

/-- Such a criterion is read back from its document exactly if there is room for it. -/
theorem WellFormed.ofJson_toJson {c : Criterion} (h : c.WellFormed) (hexact : c.IsExact)
    (room : ℕ) : ofJson room c.toJson = if c.toJson.depth ≤ room then .ok c else malformed := by
  obtain ⟨members, hmembers, hread⟩ := h.isRead hexact
  have hsound := hexact.plain_toJson.isSound_iff room
  rw [hmembers] at hsound ⊢
  by_cases hroom : (Json.object members).depth ≤ room
  · rw [if_pos hroom, ofJson, if_pos (hsound.mpr hroom)]
    exact hread false
  · rw [if_neg hroom, ofJson, if_neg (mt hsound.mp hroom)]

end Criterion

end ContentQuery
