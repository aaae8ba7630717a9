import ContentQuery.Proofs.Json.Question

/-!
# How deep a question may be nested

A question is read back from its text exactly if it is nested fewer than 128 levels deep, and so is
the descriptor that it is compiled to. But a descriptor may be one level deeper than its question,
so that the deepest question that is read back has a descriptor that is not.
-/

namespace ContentQuery

namespace Criteria

/-- The list of criteria lies one level below the question. -/
theorem depth_all_lt (criteria : Criteria) :
    (Json.array (criteria.all.map Criterion.toJson)).depth < criteria.toJson.depth := by
  have hmember : ("criteria", Json.array (criteria.all.map Criterion.toJson)) ∈
      criteria.members := by simp [members]
  exact Json.depth_lt_of_mem_members hmember

end Criteria

/-- The descriptor of a question is at most one level deeper than the question. -/
theorem Config.depth_le_of_compileCriteria {config : Config} {criteria : Criteria}
    {preferred : Option Language} {d : Descriptor}
    (h : config.compileCriteria criteria preferred = .ok d) :
    d.toJson.depth ≤ criteria.toJson.depth + 1 := by
  have hpos := Json.depth_array_pos (criteria.all.map Criterion.toJson)
  have hall := criteria.depth_all_lt
  obtain ⟨n, hn⟩ : ∃ n, criteria.toJson.depth = n + 2 := ⟨criteria.toJson.depth - 2, by omega⟩
  have hclauses : (Json.array (criteria.all.map Criterion.toJson)).depth ≤ n + 1 := by omega
  have htext (s : String) : (Json.ofString s).depth ≤ n + 1 := Nat.zero_le _
  rw [hn, Descriptor.depth_toJson_le, (describes_of_compileCriteria h).criterion,
    Criteria.criterion, Criterion.toJson, Criterion.toJsonAll_eq, Json.depth_record_le]
  simp [htext, hclauses]

/-- A question that is put together call by call is read back from its text exactly if it is nested
fewer than 128 levels deep, and so is each descriptor that it is compiled to, which is at most one
level deeper. -/
theorem Criteria.read_back_iff {criteria : Criteria} (hmade : criteria.Made)
    (hexact : ∀ c ∈ criteria.all, c.IsExact) :
    (Json.decode ofJson (Json.compact criteria.toJson) = .ok criteria ↔
      criteria.toJson.depth < 128) ∧
    ∀ (config : Config) (preferred : Option Language) (d : Descriptor),
      config.compileCriteria criteria preferred = .ok d →
        (Json.decode Descriptor.ofJson (Json.compact d.toJson) = .ok d ↔ d.toJson.depth < 128) ∧
        d.toJson.depth ≤ criteria.toJson.depth + 1 := by
  have hkept := hmade.isKept
  refine ⟨?_, fun config preferred d hd => ⟨?_, Config.depth_le_of_compileCriteria hd⟩⟩
  · rw [Json.decode_compact ofJson (plain_toJson hexact hkept.offset hkept.maxResults),
      hkept.ofJson_toJson hexact]
    exact Nat.lt_succ_iff.symm
  · have hdescribes := Config.describes_of_compileCriteria hd
    have hd' := Descriptor.isKept_of_compileCriteria hkept hd
    have hcriterion : d.criterion.IsExact := by
      rw [hdescribes.criterion]
      exact .junction .and hexact
    rw [Json.decode_compact Descriptor.ofJson (hd'.plain_toJson hcriterion),
      hd'.ofJson_toJson hcriterion]
    exact Nat.lt_succ_iff.symm

namespace Criteria

/-- The dates from the leap second before 2017 to a fraction of a second after the start of 2019. -/
def sampleRange : Criterion :=
  .range ⟨"date"⟩ (.date ⟨1483228799, 1500000000⟩) (.date ⟨1546646400, 250000⟩)

/-- Neither below a path nor of a negative size. -/
def sampleNegation : Criterion :=
  .not (.junction .or [.descendantOf "/content/site", .comparison ⟨"size"⟩ .lt (.long (-1))])

/-- A question with these two criteria, a scope, an order and a page. -/
def sample : Criteria :=
  (((((((empty.withLanguage .sql2).below "/content/").ofType "cq:Page").add sampleRange).add
    sampleNegation).orderBy .byScore).skip 20).atMost 10

/-- The sample is read back, and so is its descriptor. -/
theorem read_back_sample :
    sample.Made ∧ (∀ c ∈ sample.all, c.IsExact) ∧
    Json.decode ofJson (Json.compact sample.toJson) = .ok sample ∧
    ∃ d, Config.standard.compileCriteria sample none = .ok d ∧
      Json.decode Descriptor.ofJson (Json.compact d.toJson) = .ok d := by
  have hleap : Value.InRange (.date ⟨1483228799, 1500000000⟩) :=
    Instant.InRange.mk (by decide) (by decide)
  have hstart : Value.InRange (.date ⟨1546646400, 250000⟩) :=
    Instant.InRange.mk (by decide) (by decide)
  have hdate : Property.Accepted ⟨"date"⟩ := ⟨"@date", rfl⟩
  have hsize : Property.Accepted ⟨"size"⟩ := ⟨"size", rfl⟩
  have hpath : Criterion.ofPath "/content/site/" = .ok (.descendantOf "/content/site") := rfl
  have hlong : Value.InRange (.long (-1)) := trivial
  have hrange : sampleRange.Built := .range hdate hleap hstart rfl
  have hnegation : sampleNegation.Built := by
    refine .not (.junction .or fun c hc => ?_)
    rcases List.mem_cons.mp hc with rfl | hc
    · exact .descendantOf hpath
    · obtain rfl := List.mem_singleton.mp hc
      exact .comparison hsize hlong rfl
  have hmade : sample.Made :=
    .atMost (.skip (.orderBy (.add (.add (.ofType (.belowPath (.withLanguage .empty _) _) _) hrange)
      hnegation) (.inl rfl)) (by decide)) (by decide)
  have hexact : ∀ c ∈ sample.all, c.IsExact := by
    intro c hc
    rcases List.mem_cons.mp hc with rfl | hc
    · refine ⟨fun v hv => ?_, nofun⟩
      cases hv with
      | lower => exact ⟨hleap, fun _ => by decide⟩
      | upper => exact ⟨hstart, fun h => absurd h (by decide)⟩
    · obtain rfl := List.mem_singleton.mp hc
      refine .not (.junction .or fun c hc => ?_)
      rcases List.mem_cons.mp hc with rfl | hc
      · refine ⟨nofun, fun path hpath => ?_⟩
        cases hpath
        rfl
      · obtain rfl := List.mem_singleton.mp hc
        refine ⟨fun v hv => ?_, nofun⟩
        cases hv
        trivial
  obtain ⟨hquestion, hdescriptor⟩ := read_back_iff hmade hexact
  have hdepth : sample.toJson.depth = 7 := by decide
  obtain ⟨d, hd⟩ : ∃ d, Config.standard.compileCriteria sample none = .ok d := ⟨_, rfl⟩
  obtain ⟨hread, hdeeper⟩ := hdescriptor .standard none d hd
  exact ⟨hmade, hexact, hquestion.mpr (by omega), d, hd, hread.mpr (by omega)⟩

/-- A test for presence under so many negations. -/
def negated : ℕ → Criterion
  | 0 => .presence ⟨"a"⟩ true
  | n + 1 => .not (negated n)

/-- A question with such a test. -/
def negatedQuestion (n : ℕ) : Criteria := empty.add (negated n)

/-- An order by the property that has the name of the score. -/
def byScoreName : Criteria := empty.orderBy ⟨.property ⟨SortKey.scoreName⟩, .ascending⟩

/-- A caller can make the test. -/
theorem built_negated (n : ℕ) : (negated n).Built := by
  induction n with
  | zero => exact .presence ⟨"a", rfl⟩ rfl
  | succ n ih => exact .not ih

/-- It can be read back. -/
theorem isExact_negated (n : ℕ) : (negated n).IsExact := by
  induction n with
  | zero => exact ⟨nofun, nofun⟩
  | succ n ih => exact ih.not

/-- Every negation adds a level. -/
theorem depth_negated (n : ℕ) : (negated n).toJson.depth = n + 1 := by
  induction n with
  | zero => rfl
  | succ n ih =>
    change max (Json.ofString "not").depth (max (negated n).toJson.depth 0) + 1 = n + 2
    rw [ih]
    rfl

/-- Negations cancel two by two. -/
theorem reduce_negated (n : ℕ) :
    (negated (2 * n)).reduce = .predicate (.presence ⟨"a"⟩ true) := by
  induction n with
  | zero => rfl
  | succ n ih =>
    change ((negated (2 * n)).reduce.negate).negate = _
    rw [ih]
    rfl

/-- The question is two levels deeper than the test. -/
theorem depth_negatedQuestion (n : ℕ) : (negatedQuestion n).toJson.depth = n + 3 := by
  change max 0 (max (max (negated n).toJson.depth 0 + 1) (max 1 (max 0 0))) + 1 = n + 3
  rw [depth_negated]
  omega

/-- Its criterion is two levels deeper as well. -/
theorem depth_criterion_negatedQuestion (n : ℕ) :
    (negatedQuestion n).criterion.toJson.depth = n + 3 := by
  change max 0 (max 0 (max (max (negated n).toJson.depth 0 + 1) 0)) + 1 = n + 3
  rw [depth_negated]
  omega

/-- A caller can make the question. -/
theorem made_negatedQuestion (n : ℕ) : (negatedQuestion n).Made := .add .empty (built_negated n)

/-- Its criteria can be read back. -/
theorem isExact_of_mem_negatedQuestion {n : ℕ} : ∀ c ∈ (negatedQuestion n).all, c.IsExact := by
  intro c hc
  obtain rfl := List.mem_singleton.mp hc
  exact isExact_negated n

/-- With an even number of negations it asks for presence, and compiles. -/
theorem exists_compileCriteria_negatedQuestion (n : ℕ) :
    ∃ d, Config.standard.compileCriteria (negatedQuestion (2 * n)) none = .ok d := by
  have hreduce : (negatedQuestion (2 * n)).criterion.reduce =
      .predicate (.presence ⟨"a"⟩ true) := by
    change Reduced.join .and [(negated (2 * n)).reduce] = _
    rw [reduce_negated]
    rfl
  have hstatement : Sql2.statement ⟨(negatedQuestion (2 * n)).criterion, none, none, []⟩ =
      .ok "SELECT a.* FROM [nt:base] AS a WHERE a.[a] IS NOT NULL" := by
    rw [Sql2.statement, hreduce]
    rfl
  obtain ⟨d, hd, -⟩ := Result.map_eq_ok.mp
    ((Config.statement_compileCriteria .standard (negatedQuestion (2 * n)) none).trans hstatement)
  exact ⟨d, hd⟩

/-- Under 124 negations the test is in a question that is read back, but whose descriptor is not.
And an order by the property that has the name of the score is read back as one by the score. -/
theorem deepest_descriptor_refused :
    ((negatedQuestion 124).Made ∧ (∀ c ∈ (negatedQuestion 124).all, c.IsExact) ∧
      (negatedQuestion 124).toJson.depth < 128 ∧
      Json.decode ofJson (Json.compact (negatedQuestion 124).toJson) = .ok (negatedQuestion 124) ∧
      ∃ d, Config.standard.compileCriteria (negatedQuestion 124) none = .ok d ∧
        Json.decode Descriptor.ofJson (Json.compact d.toJson) ≠ .ok d) ∧
    Json.decode ofJson (Json.compact byScoreName.toJson) =
      .ok (empty.orderBy ⟨.score, .ascending⟩) := by
  have hexact : ∀ c ∈ (negatedQuestion 124).all, c.IsExact := isExact_of_mem_negatedQuestion
  have hmade := made_negatedQuestion 124
  have hkept := hmade.isKept
  have hdepth := depth_negatedQuestion 124
  obtain ⟨d, hd⟩ := exists_compileCriteria_negatedQuestion 62
  have hcriterion := (Config.describes_of_compileCriteria hd).criterion
  have hkeptd := Descriptor.isKept_of_compileCriteria hkept hd
  have hexactd : d.criterion.IsExact := by
    rw [hcriterion]
    exact .junction .and hexact
  have hdeep : ¬ d.toJson.depth ≤ Json.maxDepth := by
    intro hle
    have hinner := (Descriptor.depth_toJson_le (n := 124)).mp hle
    rw [hcriterion, depth_criterion_negatedQuestion] at hinner
    omega
  refine ⟨⟨hmade, hexact, by omega, ?_, d, hd, ?_⟩, ?_⟩
  · rw [Json.decode_compact ofJson (plain_toJson hexact hkept.offset hkept.maxResults),
      hkept.ofJson_toJson hexact, hdepth]
    exact Nat.le_refl 127
  · rw [ne_eq, Json.decode_compact Descriptor.ofJson (hkeptd.plain_toJson hexactd),
      hkeptd.ofJson_toJson hexactd]
    exact hdeep
  · have hplain : byScoreName.toJson.Plain := plain_toJson nofun (by decide) nofun
    rw [Json.decode_compact ofJson hplain]
    rfl

end Criteria

end ContentQuery
