import ContentQuery.Json.Query
import ContentQuery.Proofs.Criterion.Operands
import ContentQuery.Proofs.Criterion.WellFormed
import ContentQuery.Proofs.Json.Decode
import ContentQuery.Proofs.Statement.Fault

/-!
# Criteria that are read are well formed

A document is read as a criterion through the checked constructors, at every depth. So what is read
is as well formed as what callers make, and fails to have a select statement for a double at most.
-/

namespace ContentQuery

/-- What a reading succeeds with, it was given or is made from it. -/
theorem Read.ofResult_eq_ok {α : Type} {r : Result α} {a : α} :
    Read.ofResult r = .ok a ↔ r = .ok a := by
  cases r <;> simp [Read.ofResult, Except.mapError]

/-- A property that is read was made from a name. -/
theorem Property.accepted_of_ofJson {j : Json} {p : Property} (h : ofJson j = .ok p) :
    p.Accepted := by
  obtain ⟨name, -, h⟩ := Result.bind_eq_ok.mp h
  exact ⟨name, Read.ofResult_eq_ok.mp h⟩

namespace Criterion

/-- A part of a document that is well formed where it is a criterion or a list of criteria. -/
structure View.WellFormed (view : View) : Prop where
  criterion : ∀ c, view.criterion = .ok c → c.WellFormed
  clauses : ∀ cs, view.clauses = .ok cs → ∀ c ∈ cs, c.WellFormed

/-- Fields of which a criterion can be made that is well formed. -/
structure Parts.WellFormed (parts : Parts) : Prop where
  property : parts.property.Accepted
  inner : parts.inner.WellFormed
  clauses : ∀ c ∈ parts.clauses, c.WellFormed

/-- Fields before anything is read are. -/
theorem Parts.wellFormed_start : Parts.start.WellFormed :=
  ⟨⟨".", rfl⟩, .junction .and (by simp), by simp [start]⟩

section Fields

variable {α : Type} {name : String} {read : Json → Read α} {put : Parts → α → Parts}

/-- What is read into a field: the value of the document at its place. -/
theorem field_eq_ok {view : View} {parts next : Parts}
    (h : (field name read put).read view parts = .ok next) :
    ∃ a, read view.json = .ok a ∧ put parts a = next := Result.map_eq_ok.mp h

/-- A field that is not the property, the inner criterion or the clauses keeps these three. -/
theorem keeps_field (hproperty : ∀ parts a, (put parts a).property = parts.property)
    (hinner : ∀ parts a, (put parts a).inner = parts.inner)
    (hclauses : ∀ parts a, (put parts a).clauses = parts.clauses) :
    (field name read put).Keeps View.WellFormed Parts.WellFormed := by
  refine Json.Field.keeps_put fun parts a hparts => ⟨?_, ?_, ?_⟩
  · rw [hproperty]
    exact hparts.property
  · rw [hinner]
    exact hparts.inner
  · rw [hclauses]
    exact hparts.clauses

/-- The property that is read is accepted. -/
theorem keeps_propertyField : propertyField.Keeps View.WellFormed Parts.WellFormed := by
  intro view parts next _ hparts h
  obtain ⟨p, hp, rfl⟩ := field_eq_ok h
  exact ⟨Property.accepted_of_ofJson hp, hparts.inner, hparts.clauses⟩

/-- The criterion that is negated is well formed. -/
theorem keeps_innerField : innerField.Keeps View.WellFormed Parts.WellFormed := by
  intro view parts next hview hparts h
  obtain ⟨c, hc, rfl⟩ := Result.map_eq_ok.mp h
  exact ⟨hparts.property, hview.criterion c hc, hparts.clauses⟩

/-- The clauses are well formed. -/
theorem keeps_clausesField : clausesField.Keeps View.WellFormed Parts.WellFormed := by
  intro view parts next hview hparts h
  obtain ⟨cs, hcs, rfl⟩ := Result.map_eq_ok.mp h
  exact ⟨hparts.property, hparts.inner, hview.clauses cs hcs⟩

end Fields

/-- The fields of every kind keep what they have to. -/
theorem keeps_of_mem_kinds {kind : Kind} (hkind : kind ∈ kinds) :
    ∀ field ∈ kind.fields, field.Keeps View.WellFormed Parts.WellFormed := by
  have hplain {α : Type} {name : String} {read : Json → Read α} {put : Parts → α → Parts} :=
    @keeps_field α name read put
  simp only [kinds, List.mem_cons, List.not_mem_nil, or_false] at hkind
  rcases hkind with rfl | rfl | rfl | rfl | rfl | rfl | rfl | rfl | rfl <;>
    simp [keeps_propertyField, keeps_innerField, keeps_clausesField, opField, valueField,
      lowerField, upperField, textField, modeField, presentField, textsField, pathField,
      connectiveField, hplain]

/-- Every kind makes well-formed criteria. -/
theorem wellFormed_of_build {kind : Kind} (hkind : kind ∈ kinds) {parts : Parts}
    (hparts : parts.WellFormed) {c : Criterion} (h : kind.build parts = .ok c) : c.WellFormed := by
  have hp := hparts.property
  simp only [kinds, List.mem_cons, List.not_mem_nil, or_false] at hkind
  rcases hkind with rfl | rfl | rfl | rfl | rfl | rfl | rfl | rfl | rfl
  · exact wellFormed_of_map_named hp (fun _ hq => .comparison _ _ hq) h
  · exact wellFormed_of_ofRange hp h
  · exact wellFormed_of_map_named hp (fun _ hq => .patternMatch _ _ hq) h
  · exact wellFormed_of_map_named hp (fun _ hq => .presence _ hq) h
  · exact wellFormed_of_map_named hp (fun _ hq => .anyOf _ hq) h
  · cases h
    exact .containment _ hp.ofName_name
  · exact wellFormed_of_ofPath h
  · cases h
    exact .not hparts.inner
  · cases h
    exact .junction _ hparts.clauses

/-- The kind that a document names is one of the kinds. -/
theorem mem_kinds_of_kindOf {inside : Bool} {j : Json} {kind : Kind}
    (h : kindOf inside j = .ok kind) : kind ∈ kinds := by
  unfold kindOf at h
  split at h
  · split at h
    · next hfind =>
      cases h
      exact List.mem_of_find?_eq_some hfind
    · cases h
  · split at h
    · split at h
      · next hget =>
        cases h
        exact List.mem_of_getElem? hget
      · cases h
    · cases h
  · cases h

/-- What is made of members is well formed if they are. -/
theorem wellFormed_of_ofMembers {inside : Bool} {members : List (Option String × View)}
    (hviews : ∀ m ∈ members, m.2.WellFormed) {c : Criterion}
    (h : ofMembers inside members = .ok c) :
    c.WellFormed := by
  rw [ofMembers] at h
  split at h
  · obtain ⟨kind, hkind, h⟩ := Result.bind_eq_ok.mp h
    obtain ⟨parts, hparts, h⟩ := Result.bind_eq_ok.mp h
    have hmem := mem_kinds_of_kindOf hkind
    have hothers := fun m (hm : m ∈ members.filter (!isKind ·)) =>
      hviews m (List.mem_filter.mp hm).1
    exact wellFormed_of_build hmem (Json.Shape.keeps_ofMembers (keeps_of_mem_kinds hmem)
      Parts.wellFormed_start hothers hparts) (Read.ofResult_eq_ok.mp h)
  · cases h

/-- What is made of items is well formed if they are. -/
theorem wellFormed_of_ofItems {inside : Bool} {views : List View}
    (hviews : ∀ view ∈ views, view.WellFormed) {c : Criterion} (h : ofItems inside views = .ok c) :
    c.WellFormed := by
  cases views with
  | nil => cases h
  | cons tag rest =>
    obtain ⟨kind, hkind, h⟩ := Result.bind_eq_ok.mp h
    obtain ⟨parts, hparts, h⟩ := Result.bind_eq_ok.mp h
    have hmem := mem_kinds_of_kindOf hkind
    have hrest := fun view hview => hviews view (List.mem_cons_of_mem tag hview)
    exact wellFormed_of_build hmem (Json.Shape.keeps_ofItems (keeps_of_mem_kinds hmem)
      Parts.wellFormed_start hrest hparts) (Read.ofResult_eq_ok.mp h)

/-- Items are viewed one by one. -/
@[simp] theorem viewItems_eq (items : List Json) : viewItems items = items.map view := by
  induction items with
  | nil => rfl
  | cons item rest ih => simp [viewItems, ih]

/-- Members are viewed one by one. -/
@[simp] theorem viewMembers_eq (members : List (Option String × Json)) :
    viewMembers members = members.map fun member => (member.1, view member.2) := by
  induction members with
  | nil => rfl
  | cons member rest ih => simp [viewMembers, ih]

/-- Every part of a document is well formed where it is a criterion. -/
theorem wellFormed_view (j : Json) : (view j).WellFormed := by
  induction j with
  | null | boolean | number | text | broken =>
    constructor
    · intro c h
      cases h
    · intro cs h
      cases h
  | object members ih =>
    rw [view, viewMembers_eq]
    refine ⟨fun c h => wellFormed_of_ofMembers (fun m hm => ?_) h, nofun⟩
    obtain ⟨member, hmember, rfl⟩ := List.mem_map.mp hm
    exact ih member hmember
  | array items ih =>
    have hviews : ∀ v ∈ items.map view, v.WellFormed := by
      intro v hv
      obtain ⟨item, hitem, rfl⟩ := List.mem_map.mp hv
      exact ih item hitem
    rw [view, viewItems_eq]
    refine ⟨fun c h => wellFormed_of_ofItems hviews h, fun cs h c hc => ?_⟩
    obtain ⟨v, hv, hread⟩ := Json.exists_of_mem_eachOf h hc
    exact (hviews v hv).criterion c hread

/-- A criterion that is read from a document is well formed. -/
theorem wellFormed_of_ofJson {room : ℕ} {j : Json} {c : Criterion} (h : ofJson room j = .ok c) :
    c.WellFormed := by
  unfold ofJson at h
  split at h
  · split at h
    · refine wellFormed_of_ofMembers (fun m hm => ?_) h
      rw [viewMembers_eq] at hm
      obtain ⟨member, -, rfl⟩ := List.mem_map.mp hm
      exact wellFormed_view member.2
    · refine wellFormed_of_ofItems (fun v hv => ?_) h
      rw [viewItems_eq] at hv
      obtain ⟨item, -, rfl⟩ := List.mem_map.mp hv
      exact wellFormed_view item
    · cases h
  · cases h

end Criterion

/-- The criteria of a question that is read are well formed. -/
theorem Criteria.wellFormed_of_ofJson {j : Json} {criteria : Criteria}
    (h : ofJson j = .ok criteria) :
    ∀ c ∈ criteria.all, c.WellFormed := by
  have hstart : ∀ c ∈ shape.start.all, c.WellFormed := by simp [shape, empty]
  refine Json.Shape.keeps_asRecord (fun record => ∀ c ∈ record.all, c.WellFormed)
    (fun field hfield => ?_) hstart h
  simp only [shape, List.mem_cons, List.not_mem_nil, or_false] at hfield
  rcases hfield with rfl | rfl | rfl | rfl | rfl | rfl | rfl
  case inr.inr.inr.inl =>
    intro value record next _ _ hread c hc
    obtain ⟨all, hall, rfl⟩ := Result.map_eq_ok.mp hread
    cases value with
    | array items =>
      obtain ⟨item, -, hitem⟩ := Json.exists_of_mem_eachOf hall hc
      exact Criterion.wellFormed_of_ofJson hitem
    | null | boolean | number | text | object | broken => cases hall
  all_goals exact Json.Field.keeps_put fun _ _ hrecord => hrecord

/-- The criterion of a descriptor that is read is well formed. -/
theorem Descriptor.wellFormed_of_ofJson {j : Json} {d : Descriptor} (h : ofJson j = .ok d) :
    d.criterion.WellFormed := by
  have hstart : shape.start.criterion.WellFormed := .junction .and (by simp)
  refine Json.Shape.keeps_asRecord (fun record => record.criterion.WellFormed)
    (fun field hfield => ?_) hstart h
  simp only [shape, List.mem_cons, List.not_mem_nil, or_false] at hfield
  rcases hfield with rfl | rfl | rfl | rfl | rfl | rfl | rfl | rfl | rfl
  case inr.inr.inr.inr.inr.inl =>
    intro value record next _ _ hread
    obtain ⟨c, hc, rfl⟩ := Result.map_eq_ok.mp hread
    exact Criterion.wellFormed_of_ofJson hc
  all_goals exact Json.Field.keeps_put fun _ _ hrecord => hrecord

/-- A request with a legal type has no select statement only for a double that is no real number
and that its criterion compares with. -/
theorem Sql2.exists_operand_of_error {r : Request} {e : Error}
    (htype : ∀ name ∈ r.nodeType, Request.isTypeName name = true) (h : statement r = .error e) :
    ∃ x, r.criterion.HasOperand (.double x) ∧ x.isFinite = false ∧
      e = .invalidArgument (.noLiteral x.toText) := by
  obtain ⟨a, ha, hfault⟩ :=
    List.exists_of_findSome?_eq_some ((Request.sql2_eq_error_iff htype e).mp h)
  obtain ⟨p, op, x, rfl, hx, rfl⟩ := Predicate.fault?_eq_some.mp hfault
  exact ⟨x, .of_reduce (.of_mem_atoms ha), hx, rfl⟩

/-- Every criterion is well formed: those that are made with the checked constructors, and those
that are read from any document, alone, in a question or in a descriptor. And a request for a
well-formed criterion with a legal type fails to have a select statement only for a double that is
no real number and that the criterion compares with. -/
theorem Criterion.wellFormed_of_built_or_read :
    (∀ c : Criterion, c.Built → c.WellFormed) ∧
    (∀ (room : ℕ) (j : Json) (c : Criterion), Criterion.ofJson room j = .ok c → c.WellFormed) ∧
    (∀ (j : Json) (criteria : Criteria), Criteria.ofJson j = .ok criteria →
      ∀ c ∈ criteria.all, c.WellFormed) ∧
    (∀ (j : Json) (d : Descriptor), Descriptor.ofJson j = .ok d → d.criterion.WellFormed) ∧
    ∀ (r : Request) (e : Error), r.criterion.WellFormed →
      (∀ name ∈ r.nodeType, Request.isTypeName name = true) → Sql2.statement r = .error e →
      ∃ x, r.criterion.HasOperand (.double x) ∧ x.isFinite = false ∧
        e = .invalidArgument (.noLiteral x.toText) := by
  refine ⟨fun c h => h.wellFormed, fun room j c h => wellFormed_of_ofJson h,
    fun j criteria h => Criteria.wellFormed_of_ofJson h,
    fun j d h => Descriptor.wellFormed_of_ofJson h, ?_⟩
  intro r e _ htype h
  exact Sql2.exists_operand_of_error htype h

namespace Criterion

/-- A negated choice between words of the node and a range, with its members in another order. -/
def choiceDocument : Json :=
  .record [("inner", .record [
      ("clauses", .array [
        .record [("kind", .ofString "containment"), ("property", .ofString "."),
          ("value", .ofString "news")],
        .record [("upper", .record [("long", .number ['9'])]),
          ("lower", .record [("long", .number ['-', '1'])]), ("property", .ofString "@size"),
          ("kind", .ofString "range")]]),
      ("connective", .ofString "or"), ("kind", .ofString "junction")]),
    ("kind", .ofString "not")]

/-- What the document is read as. -/
def choice : Criterion :=
  .not (.junction .or [.containment .node "news", .range ⟨"size"⟩ (.long (-1)) (.long 9)])

/-- A comparison with what is no number, below a path. -/
def incomparable : Criterion :=
  .junction .and [.descendantOf "/shop",
    .comparison ⟨"price"⟩ .eq (.double ⟨0x7FF8000000000000⟩)]

/-- The document is read as a well-formed criterion, and the comparison is made as one but cannot be
written. -/
theorem wellFormed_choice : ofJson Json.maxDepth choiceDocument = .ok choice ∧ choice.WellFormed ∧
    incomparable.Built ∧ incomparable.WellFormed ∧
    Sql2.statement ⟨incomparable, some "/", some "cq:Page", []⟩ =
      .error (.invalidArgument (.noLiteral "NaN")) ∧
    ∃ x, incomparable.HasOperand (.double x) ∧ x.isFinite = false ∧
      Error.invalidArgument (.noLiteral "NaN") = .invalidArgument (.noLiteral x.toText) := by
  obtain ⟨hbuilt, hread, -, -, hfails⟩ := wellFormed_of_built_or_read
  have hchoice : ofJson Json.maxDepth choiceDocument = .ok choice := rfl
  have hpath : ofPath "/shop//*" = .ok (.descendantOf "/shop") := rfl
  have hprice : Property.Accepted ⟨"price"⟩ := ⟨"@price", rfl⟩
  have hnan : Value.InRange (.double ⟨0x7FF8000000000000⟩) := trivial
  have hincomparable : incomparable.Built := by
    refine .junction .and fun c hc => ?_
    rcases List.mem_cons.mp hc with rfl | hc
    · exact .descendantOf hpath
    · obtain rfl := List.mem_singleton.mp hc
      exact .comparison hprice hnan rfl
  have hlegal : ∀ name ∈ some "cq:Page", Request.isTypeName name = true := by
    intro name hname
    cases hname
    rfl
  have herror : Sql2.statement ⟨incomparable, some "/", some "cq:Page", []⟩ =
      .error (.invalidArgument (.noLiteral "NaN")) :=
    (Request.sql2_eq_error_iff hlegal _).mpr rfl
  have hformed := hbuilt _ hincomparable
  exact ⟨hchoice, hread _ _ _ hchoice, hincomparable, hformed, herror,
    hfails _ _ hformed hlegal herror⟩

end Criterion

end ContentQuery
