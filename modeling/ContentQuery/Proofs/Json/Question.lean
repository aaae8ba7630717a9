import ContentQuery.Proofs.Json.ReadBack
import ContentQuery.Proofs.Json.Written
import ContentQuery.Proofs.Query.Compiler
import ContentQuery.Proofs.Query.Page

/-!
# Written questions and descriptors are read back

A question that is put together call by call is read back from its text, and so is the descriptor
that it is compiled to: field by field, as long as they are nested no deeper than a reader goes.
-/

namespace ContentQuery

/-- The name under which a language is written is read back. -/
theorem Language.ofJson_toJson (language : Language) : ofJson language.toJson = .ok language := by
  cases language <;> rfl

/-- The name under which a direction is written is read back. -/
theorem Direction.ofJson_key (direction : Direction) :
    ofJson (.ofString direction.key) = .ok direction := by
  cases direction <;> rfl

namespace Order

/-- An entry that a caller can make. -/
def Made (o : Order) : Prop :=
  o = byScore ∨ ∃ name, ascending name = .ok o ∨ descending name = .ok o

/-- The sort key of such an entry is made from a name. -/
theorem Made.exists_name {o : Order} (h : o.Made) : ∃ name, SortKey.ofName name = .ok o.key := by
  rcases h with rfl | ⟨name, h | h⟩
  · exact ⟨SortKey.scoreName, rfl⟩
  · obtain ⟨key, hkey, rfl⟩ := Result.map_eq_ok.mp h
    exact ⟨name, hkey⟩
  · obtain ⟨key, hkey, rfl⟩ := Result.map_eq_ok.mp h
    exact ⟨name, hkey⟩

/-- An entry is written as a plain document. -/
theorem plain_toJson (o : Order) : o.toJson.Plain := .record (by simp [Json.Plain.text])

/-- An entry is written on one level. -/
theorem depth_toJson_le (o : Order) : o.toJson.depth ≤ 1 := by
  rw [toJson, Json.depth_record_le]
  simp [Json.ofString, Json.depth]

/-- An entry that a caller can make is read back. -/
theorem Made.ofJson_toJson {o : Order} (h : o.Made) : ofJson o.toJson = .ok o := by
  obtain ⟨name, hname⟩ := h.exists_name
  have hkey : SortKey.ofJson (.ofString o.key.describe) = .ok o.key :=
    congrArg Read.ofResult (SortKey.ofName_describe hname)
  have hread : Json.ReadsTo shape.fields shape.start
      [("key", .ofString o.key.describe), ("direction", .ofString o.direction.key)] o :=
    .cons rfl (congrArg (Except.map _) hkey)
      (.cons rfl (congrArg (Except.map _) (Direction.ofJson_key o.direction)) (.nil _))
  exact hread.ofMembers_eq Json.isWhole (by simp) (by simp [shape])

/-- An order of such entries is read back. -/
theorem listOfJson_listToJson {order : List Order} (h : ∀ o ∈ order, o.Made) :
    listOfJson (listToJson order) = .ok order :=
  Json.eachOf_map fun o ho => (h o ho).ofJson_toJson

/-- An order is written as a plain document. -/
theorem plain_listToJson (order : List Order) : (listToJson order).Plain := by
  refine .array fun item hitem => ?_
  obtain ⟨o, -, rfl⟩ := List.mem_map.mp hitem
  exact o.plain_toJson

/-- An order is written on two levels. -/
theorem depth_listToJson_le (order : List Order) : (listToJson order).depth ≤ 2 := by
  rw [listToJson, Json.depth_array_le, List.forall_mem_map]
  intro o _
  exact o.depth_toJson_le

end Order

namespace Criteria

/-- A question that is put together call by call, from criteria and entries that callers can make
and from numbers of 64 bits. -/
inductive Made : Criteria → Prop
  | empty : Made .empty
  | withLanguage {criteria : Criteria} (h : Made criteria) (language : Language) :
    Made (criteria.withLanguage language)
  | belowPath {criteria : Criteria} (h : Made criteria) (path : String) : Made (criteria.below path)
  | ofType {criteria : Criteria} (h : Made criteria) (type : String) : Made (criteria.ofType type)
  | add {criteria : Criteria} (h : Made criteria) {c : Criterion} (hc : c.Built) :
    Made (criteria.add c)
  | orderBy {criteria : Criteria} (h : Made criteria) {o : Order} (ho : o.Made) :
    Made (criteria.orderBy o)
  | skip {criteria : Criteria} (h : Made criteria) {rows : ℕ} (hrows : rows < Json.wordCount) :
    Made (criteria.skip rows)
  | atMost {criteria : Criteria} (h : Made criteria) {rows : ℕ} (hrows : rows < Json.wordCount) :
    Made (criteria.atMost rows)

/-- What every such question has: criteria and entries that callers can make, and numbers of rows
of 64 bits. -/
structure IsKept (criteria : Criteria) : Prop where
  clauses : ∀ c ∈ criteria.all, c.Built
  order : ∀ o ∈ criteria.order, o.Made
  offset : criteria.offset < Json.wordCount
  maxResults : ∀ rows ∈ criteria.maxResults, rows < Json.wordCount

/-- Every call keeps this. -/
theorem Made.isKept {criteria : Criteria} (h : criteria.Made) : criteria.IsKept := by
  induction h with
  | empty =>
    exact ⟨by simp [Criteria.empty], by simp [Criteria.empty], by decide, by simp [Criteria.empty]⟩
  | withLanguage _ _ ih | belowPath _ _ ih | ofType _ _ ih =>
    exact ⟨ih.clauses, ih.order, ih.offset, ih.maxResults⟩
  | add _ hc ih =>
    refine ⟨fun c h => ?_, ih.order, ih.offset, ih.maxResults⟩
    rcases List.mem_append.mp h with h | h
    · exact ih.clauses c h
    · obtain rfl := List.mem_singleton.mp h
      exact hc
  | orderBy _ ho ih =>
    refine ⟨ih.clauses, fun o h => ?_, ih.offset, ih.maxResults⟩
    rcases List.mem_append.mp h with h | h
    · exact ih.order o h
    · obtain rfl := List.mem_singleton.mp h
      exact ho
  | skip _ hrows ih => exact ⟨ih.clauses, ih.order, hrows, ih.maxResults⟩
  | @atMost _ _ rows hrows ih =>
    refine ⟨ih.clauses, ih.order, ih.offset, fun n hn => ?_⟩
    rw [Criteria.atMost] at hn
    dsimp only at hn
    split at hn
    · cases hn
      exact hrows
    · cases hn

/-- The members of the document of a question. -/
def members (criteria : Criteria) : List (String × Json) :=
  [("language", criteria.language.toJson)] ++ optional "base_path" .ofString criteria.basePath ++
    optional "type" .ofString criteria.nodeType ++
    [("criteria", .array (criteria.all.map Criterion.toJson)),
      ("order", Order.listToJson criteria.order), ("offset", .ofNat criteria.offset)] ++
    optional "max_results" .ofNat criteria.maxResults

/-- An optional member has its name or is absent. -/
theorem names_optional {α : Type} (name : String) (write : α → Json) (value : Option α) :
    ((optional name write value).map Prod.fst).Sublist [name] := by
  cases value <;> simp [optional]

/-- The members have the names of the fields, in their order. -/
theorem names_members (criteria : Criteria) :
    (criteria.members.map Prod.fst).Sublist
      ["language", "base_path", "type", "criteria", "order", "offset", "max_results"] := by
  simp only [members, List.map_append]
  exact (((List.Sublist.refl ["language"]).append (names_optional "base_path" _ _)).append
    (names_optional "type" _ _)).append (List.Sublist.refl ["criteria", "order", "offset"]) |>.append
      (names_optional "max_results" _ _)

/-- What holds of all that is written for a question holds of the values of its members. -/
theorem forall_mem_members {criteria : Criteria} (holds : Json → Prop)
    (htext : ∀ s : String, holds (.ofString s))
    (hall : holds (.array (criteria.all.map Criterion.toJson)))
    (horder : holds (Order.listToJson criteria.order)) (hoffset : holds (.ofNat criteria.offset))
    (hrows : ∀ rows ∈ criteria.maxResults, holds (.ofNat rows)) :
    ∀ m ∈ criteria.members, holds m.2 := by
  have hoptional {α : Type} {name : String} {write : α → Json} {value : Option α}
      (h : ∀ a ∈ value, holds (write a)) : ∀ m ∈ optional name write value, holds m.2 := by
    cases value with
    | none => simp [optional]
    | some a => simpa [optional] using h a rfl
  intro m hm
  simp only [members, List.mem_append] at hm
  rcases hm with (((hm | hm) | hm) | hm) | hm
  · obtain rfl := List.mem_singleton.mp hm
    exact htext _
  · exact hoptional (fun path _ => htext path) m hm
  · exact hoptional (fun type _ => htext type) m hm
  · simp only [List.mem_cons, List.not_mem_nil, or_false] at hm
    rcases hm with rfl | rfl | rfl
    · exact hall
    · exact horder
    · exact hoffset
  · exact hoptional hrows m hm

/-- A question is written as a plain document if its criteria are. -/
theorem plain_toJson {criteria : Criteria} (hexact : ∀ c ∈ criteria.all, c.IsExact)
    (hoffset : criteria.offset < Json.wordCount)
    (hrows : ∀ rows ∈ criteria.maxResults, rows < Json.wordCount) : criteria.toJson.Plain := by
  have hall : (Json.array (criteria.all.map Criterion.toJson)).Plain := by
    refine .array fun item hitem => ?_
    obtain ⟨c, hc, rfl⟩ := List.mem_map.mp hitem
    exact (hexact c hc).plain_toJson
  exact .record (forall_mem_members Json.Plain .text hall (Order.plain_listToJson criteria.order)
    (.natural hoffset) fun rows h => .natural (hrows rows h))

/-- A question is two levels deeper than its criteria. -/
theorem depth_toJson_le {criteria : Criteria} {n : ℕ} :
    criteria.toJson.depth ≤ n + 3 ↔ ∀ c ∈ criteria.all, c.toJson.depth ≤ n + 1 := by
  have hall : (Json.array (criteria.all.map Criterion.toJson)).depth ≤ n + 2 ↔
      ∀ c ∈ criteria.all, c.toJson.depth ≤ n + 1 := by
    rw [Json.depth_array_le, List.forall_mem_map]
  have hrecord : criteria.toJson = .record criteria.members := rfl
  rw [hrecord, Json.depth_record_le, ← hall]
  constructor
  · intro h
    exact h ("criteria", _) (by simp [members])
  · intro h
    have horder := Order.depth_listToJson_le criteria.order
    exact forall_mem_members (fun j => j.depth ≤ n + 2) (fun s => Nat.zero_le _) h (by omega)
      (Nat.zero_le _) fun rows _ => Nat.zero_le _

/-- What is read from an optional member: the record with its value, or the record as it is. -/
theorem readsTo_optional {α ρ : Type} {fields : List (Json.Field Json ρ)} {name : String}
    {write : α → Json} {value : Option α} {record next : ρ} (hnone : value = none → record = next)
    (hsome : ∀ a, value = some a → Json.ReadsTo fields record [(name, write a)] next) :
    Json.ReadsTo fields record (optional name write value) next := by
  cases value with
  | none =>
    rw [hnone rfl]
    exact .nil next
  | some a => exact hsome a rfl

/-- The members of a question are read one after the other. -/
theorem IsKept.readsTo {criteria : Criteria} (h : criteria.IsKept)
    (hall : Json.asList (Criterion.ofJson (Json.maxDepth - 2))
      (.array (criteria.all.map Criterion.toJson)) = .ok criteria.all) :
    Json.ReadsTo shape.fields shape.start criteria.members criteria := by
  obtain ⟨language, basePath, nodeType, all, order, offset, maxResults⟩ := criteria
  have hlanguage : Json.ReadsTo shape.fields shape.start [("language", language.toJson)]
      { empty with language := language } :=
    .cons rfl (congrArg (Except.map _) language.ofJson_toJson) (.nil _)
  have hbase : Json.ReadsTo shape.fields { empty with language := language }
      (optional "base_path" .ofString basePath)
      { empty with language := language, basePath := basePath } := by
    refine readsTo_optional (fun hnone => ?_) fun path hpath => ?_
    · rw [hnone]
      rfl
    · rw [hpath]
      exact .cons rfl rfl (.nil _)
  have htype : Json.ReadsTo shape.fields { empty with language := language, basePath := basePath }
      (optional "type" .ofString nodeType)
      { empty with language := language, basePath := basePath, nodeType := nodeType } := by
    refine readsTo_optional (fun hnone => ?_) fun type htype => ?_
    · rw [hnone]
      rfl
    · rw [htype]
      exact .cons rfl rfl (.nil _)
  have hlists : Json.ReadsTo shape.fields
      { empty with language := language, basePath := basePath, nodeType := nodeType }
      [("criteria", .array (all.map Criterion.toJson)), ("order", Order.listToJson order),
        ("offset", .ofNat offset)]
      ⟨language, basePath, nodeType, all, order, offset, none⟩ :=
    .cons rfl (congrArg (Except.map _) hall)
      (.cons rfl (congrArg (Except.map _) (Order.listOfJson_listToJson h.order))
        (.cons rfl (congrArg (Except.map _) (Json.asCount_ofNat h.offset)) (.nil _)))
  have hrows : Json.ReadsTo shape.fields ⟨language, basePath, nodeType, all, order, offset, none⟩
      (optional "max_results" .ofNat maxResults)
      ⟨language, basePath, nodeType, all, order, offset, maxResults⟩ := by
    refine readsTo_optional (fun hnone => ?_) fun rows hrows => ?_
    · rw [hnone]
    · have hread := Json.asOptionalCount_ofNat (h.maxResults rows hrows)
      rw [hrows]
      exact .cons rfl (congrArg (Except.map _) hread) (.nil _)
  exact (((hlanguage.append hbase).append htype).append hlists).append hrows

/-- A question is read back from its document exactly if it is nested no deeper than a reader
goes. -/
theorem IsKept.ofJson_toJson {criteria : Criteria} (h : criteria.IsKept)
    (hexact : ∀ c ∈ criteria.all, c.IsExact) :
    ofJson criteria.toJson = .ok criteria ↔ criteria.toJson.depth ≤ Json.maxDepth := by
  have hread (c : Criterion) (hc : c ∈ criteria.all) :=
    (h.clauses c hc).wellFormed.ofJson_toJson (hexact c hc) (Json.maxDepth - 2)
  have hdepth : criteria.toJson.depth ≤ Json.maxDepth ↔
      ∀ c ∈ criteria.all, c.toJson.depth ≤ Json.maxDepth - 2 := depth_toJson_le
  rw [hdepth]
  constructor
  · intro hok c hc
    have hmember : (some "criteria", Json.array (criteria.all.map Criterion.toJson)) ∈
        criteria.members.map fun m => (some m.1, m.2) := by
      simp [members]
    obtain ⟨before, after, hfield⟩ := Json.Shape.exists_read_of_ofMembers hok hmember rfl
    obtain ⟨all, hall, -⟩ := Result.map_eq_ok.mp hfield
    obtain ⟨read, hitem⟩ := Json.exists_read_of_eachOf hall (List.mem_map_of_mem hc)
    rw [hread c hc] at hitem
    by_contra hdeep
    rw [if_neg hdeep] at hitem
    cases hitem
  · intro hroom
    have hall : Json.asList (Criterion.ofJson (Json.maxDepth - 2))
        (.array (criteria.all.map Criterion.toJson)) = .ok criteria.all := by
      refine Json.eachOf_map fun c hc => ?_
      rw [hread c hc, if_pos (hroom c hc)]
    exact (h.readsTo hall).ofMembers_eq Json.isWhole ((names_members criteria).nodup (by decide))
      (by simp [shape])

end Criteria

namespace Descriptor

/-- A descriptor that a compiler makes of a question: its criterion, its order and its numbers of
rows are those of a question. -/
structure IsKept (d : Descriptor) : Prop where
  criterion : d.criterion.WellFormed
  order : ∀ o ∈ d.order, o.Made
  offset : d.offset < Json.wordCount
  limit : ∀ rows ∈ d.limit, rows < Json.wordCount

/-- A compiled question is such a descriptor. -/
theorem isKept_of_compileCriteria {config : Config} {criteria : Criteria}
    {preferred : Option Language} {d : Descriptor} (hcriteria : criteria.IsKept)
    (h : config.compileCriteria criteria preferred = .ok d) : d.IsKept := by
  have hdescribes := Config.describes_of_compileCriteria h
  obtain ⟨hoffset, hlimit, -⟩ := Config.page_of_compileCriteria h
  refine ⟨?_, ?_, ?_, ?_⟩
  · rw [hdescribes.criterion]
    exact .junction .and fun c hc => (hcriteria.clauses c hc).wellFormed
  · rw [hdescribes.order]
    exact hcriteria.order
  · rw [hoffset]
    exact hcriteria.offset
  · intro rows hrows
    rw [hlimit, Criteria.pageSize, Option.mem_filter_iff] at hrows
    exact hcriteria.maxResults rows hrows.1

/-- The members of the document of a descriptor. -/
def members (d : Descriptor) : List (String × Json) :=
  [("requested_language", d.requestedLanguage.toJson), ("language", d.language.toJson),
    ("statement", .ofString d.statement), ("base_path", .ofOption d.basePath),
    ("node_type", .ofOption d.nodeType), ("criterion", d.criterion.toJson),
    ("order", Order.listToJson d.order), ("offset", .ofNat d.offset),
    ("limit", (d.limit.map Json.ofNat).getD .null)]

/-- A descriptor is written as a plain document if its criterion is. -/
theorem IsKept.plain_toJson {d : Descriptor} (h : d.IsKept) (hexact : d.criterion.IsExact) :
    d.toJson.Plain := by
  have hlimit : ((d.limit.map Json.ofNat).getD .null).Plain := by
    cases hrows : d.limit with
    | none => exact .null
    | some rows => exact .natural (h.limit rows hrows)
  have hlanguage (language : Language) : language.toJson.Plain := .text _
  exact .record (by simp [hlanguage, Json.Plain.text, Json.Plain.option, hexact.plain_toJson,
    Order.plain_listToJson, Json.Plain.natural h.offset, hlimit])

/-- A descriptor is one level deeper than its criterion. -/
theorem depth_toJson_le {d : Descriptor} {n : ℕ} :
    d.toJson.depth ≤ n + 3 ↔ d.criterion.toJson.depth ≤ n + 2 := by
  have htext (s : String) : (Json.ofString s).depth ≤ n + 2 := Nat.zero_le _
  have hlanguage (language : Language) : language.toJson.depth ≤ n + 2 := Nat.zero_le _
  have hoption (s : Option String) : (Json.ofOption s).depth ≤ n + 2 := by
    cases s <;> exact Nat.zero_le _
  have horder : (Order.listToJson d.order).depth ≤ n + 2 :=
    (Order.depth_listToJson_le d.order).trans (by omega)
  have hoffset : (Json.ofNat d.offset).depth ≤ n + 2 := Nat.zero_le _
  have hlimit : ((d.limit.map Json.ofNat).getD .null).depth ≤ n + 2 := by
    cases d.limit <;> exact Nat.zero_le _
  have hrecord : d.toJson = .record d.members := rfl
  rw [hrecord, Json.depth_record_le]
  simp [members, htext, hlanguage, hoption, horder, hoffset, hlimit]

/-- A descriptor is read back if its criterion is. -/
theorem IsKept.ofJson_of_criterion {d : Descriptor} (h : d.IsKept)
    (hcriterion : Criterion.ofJson (Json.maxDepth - 1) d.criterion.toJson = .ok d.criterion) :
    ofJson d.toJson = .ok d := by
  have hlimit : Json.asOptionalCount ((d.limit.map Json.ofNat).getD .null) = .ok d.limit := by
    cases hrows : d.limit with
    | none => rfl
    | some rows => exact Json.asOptionalCount_ofNat (h.limit rows hrows)
  have hread : Json.ReadsTo shape.fields shape.start d.members d :=
    .cons rfl (congrArg (Except.map _) d.requestedLanguage.ofJson_toJson)
      (.cons rfl (congrArg (Except.map _) d.language.ofJson_toJson)
      (.cons rfl rfl
      (.cons rfl (congrArg (Except.map _) (Json.asOptionalString_ofOption d.basePath))
      (.cons rfl (congrArg (Except.map _) (Json.asOptionalString_ofOption d.nodeType))
      (.cons rfl (congrArg (Except.map _) hcriterion)
      (.cons rfl (congrArg (Except.map _) (Order.listOfJson_listToJson h.order))
      (.cons rfl (congrArg (Except.map _) (Json.asCount_ofNat h.offset))
      (.cons rfl (congrArg (Except.map _) hlimit) (.nil _)))))))))
  exact hread.ofMembers_eq Json.isWhole (by simp [members]) (by simp [members, shape, neededNames])

/-- A descriptor is read back from its document exactly if it is nested no deeper than a reader
goes. -/
theorem IsKept.ofJson_toJson {d : Descriptor} (h : d.IsKept) (hexact : d.criterion.IsExact) :
    ofJson d.toJson = .ok d ↔ d.toJson.depth ≤ Json.maxDepth := by
  have hread := h.criterion.ofJson_toJson hexact (Json.maxDepth - 1)
  have hdepth : d.toJson.depth ≤ Json.maxDepth ↔
      d.criterion.toJson.depth ≤ Json.maxDepth - 1 := depth_toJson_le
  rw [hdepth]
  constructor
  · intro hok
    have hmember : (some "criterion", d.criterion.toJson) ∈
        d.members.map fun m => (some m.1, m.2) := by
      simp [members]
    obtain ⟨before, after, hfield⟩ := Json.Shape.exists_read_of_ofMembers hok hmember rfl
    obtain ⟨c, hc, -⟩ := Result.map_eq_ok.mp hfield
    rw [hread] at hc
    by_contra hdeep
    rw [if_neg hdeep] at hc
    cases hc
  · intro hroom
    rw [if_pos hroom] at hread
    exact h.ofJson_of_criterion hread

end Descriptor

end ContentQuery
