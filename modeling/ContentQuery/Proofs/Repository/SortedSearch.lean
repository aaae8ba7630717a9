import ContentQuery.Proofs.Repository.Hits
import ContentQuery.Proofs.Repository.NodeOrder

/-!
# Sorted searches

A search that sorts finds the nodes that it finds without sorting. What comes first is said key by
key: absent values, then values by their types and within a type by what they hold. Where no node
has a double under a key, the nodes are sorted in this sense, and nodes that no key tells apart keep
the document order, whatever the directions of the keys are.
-/

namespace ContentQuery

/-! ### What comes first -/

/-- One value of a key comes before another one, where none stands for an absent value. Truth values
do not come before each other. -/
inductive KeyBefore : Option Value → Option Value → Prop
  /-- An absent value comes before every other one. -/
  | absent (v : Value) : KeyBefore none (some v)
  /-- Texts are ordered as such. -/
  | text {s t : String} (h : s < t) : KeyBefore (some (.text s)) (some (.text t))
  /-- Integers are ordered as such. -/
  | long {m n : Int64} (h : m.toInt < n.toInt) : KeyBefore (some (.long m)) (some (.long n))
  /-- Instants are ordered by their seconds and then by the rest. -/
  | date {s t : Instant} (h : s.seconds < t.seconds ∨ s.seconds = t.seconds ∧ s.nanos < t.nanos) :
    KeyBefore (some (.date s)) (some (.date t))
  /-- Values of different types are ordered by the names of the types. -/
  | type {u v : Value} (h : u.typeName < v.typeName) : KeyBefore (some u) (some v)

/-- An entry tells two nodes apart and puts the first one before the second one. -/
def Order.Before (o : Order) (a b : Node) : Prop :=
  match o.key, o.direction with
  | .score, _ => False
  | .property p, .ascending => KeyBefore (a.property? p.name) (b.property? p.name)
  | .property p, .descending => KeyBefore (b.property? p.name) (a.property? p.name)

/-- An entry does not tell two nodes apart. -/
def Order.Tied (o : Order) (a b : Node) : Prop := ¬ o.Before a b ∧ ¬ o.Before b a

/-- The first entry that tells two nodes apart puts the first one before the second one. -/
inductive Precedes : List Order → Node → Node → Prop
  | here {o : Order} {rest : List Order} {a b : Node} (h : o.Before a b) :
    Precedes (o :: rest) a b
  | later {o : Order} {rest : List Order} {a b : Node} (htied : o.Tied a b)
    (h : Precedes rest a b) : Precedes (o :: rest) a b

/-- A node that has no double under any key of an order. -/
def Node.WithoutDoubles (n : Node) (order : List Order) : Prop :=
  ∀ o ∈ order, ∀ p, o.key = .property p → ∀ x, n.property? p.name ≠ some (.double x)

/-! ### What comes first compares as less -/

/-- Of two instants the one that compares as less is earlier. -/
theorem Instant.compare_eq_lt_iff (s t : Instant) : s.compare t = .lt ↔
    s.seconds < t.seconds ∨ s.seconds = t.seconds ∧ s.nanos < t.nanos := by
  rw [Instant.compare, Ordering.then_eq_lt, compare_lt_iff_lt, compare_eq_iff_eq, compare_lt_iff_lt]

/-- Of two values of one type that is not that of doubles, the one that is ordered as less comes
before the other one. -/
theorem keyBefore_iff_of_typeName {u v : Value} (htype : u.typeName = v.typeName)
    (hdouble : ∀ x, u ≠ .double x) : KeyBefore (some u) (some v) ↔ u.order v = .lt := by
  have hsame : ¬ u.typeName < v.typeName := by
    rw [htype]
    exact String.lt_irrefl _
  cases u <;> cases v <;> try (exact absurd htype (by simp only [Value.typeName]; decide))
  case text.text s t =>
    have horder : (Value.text s).order (.text t) = .lt ↔ s < t := compareOfLessAndEq_eq_lt
    rw [horder]
    exact ⟨fun h => by cases h with | text h => exact h | type h => exact absurd h hsame, .text⟩
  case long.long m n =>
    have horder : (Value.long m).order (.long n) = Ord.compare m.toInt n.toInt := rfl
    rw [horder, compare_lt_iff_lt]
    exact ⟨fun h => by cases h with | long h => exact h | type h => exact absurd h hsame, .long⟩
  case date.date s t =>
    have horder : (Value.date s).order (.date t) = s.compare t := rfl
    rw [horder, Instant.compare_eq_lt_iff]
    exact ⟨fun h => by cases h with | date h => exact h | type h => exact absurd h hsame, .date⟩
  case boolean.boolean a b =>
    have horder : (Value.boolean a).order (.boolean b) = .eq := by cases a <;> cases b <;> rfl
    rw [horder]
    exact ⟨fun h => by cases h with | type h => exact absurd h hsame, fun h => by cases h⟩
  case double.double x y => exact absurd rfl (hdouble x)

/-- Values of different types that are not those of doubles are ordered by the names of the
types. -/
theorem order_of_typeName_ne {u v : Value} (htype : u.typeName ≠ v.typeName)
    (hu : ∀ x, u ≠ .double x) (hv : ∀ x, v ≠ .double x) :
    u.order v = Ord.compare u.typeName v.typeName := by
  cases u <;> cases v <;>
    first
      | rfl
      | exact absurd rfl htype
      | exact absurd rfl (hu _)
      | exact absurd rfl (hv _)

/-- Of two values of a key that are not doubles, the one that compares as less comes before the
other one. -/
theorem keyBefore_iff {u v : Option Value} (hu : ∀ x, u ≠ some (.double x))
    (hv : ∀ x, v ≠ some (.double x)) : KeyBefore u v ↔ compareKeys u v = .lt := by
  cases u with
  | none =>
    cases v with
    | none => exact ⟨nofun, nofun⟩
    | some v => exact ⟨fun _ => rfl, fun _ => .absent v⟩
  | some u =>
    cases v with
    | none => exact ⟨nofun, nofun⟩
    | some v =>
      have hu' : ∀ x, u ≠ .double x := fun x heq => hu x (congrArg some heq)
      have hv' : ∀ x, v ≠ .double x := fun x heq => hv x (congrArg some heq)
      change _ ↔ u.order v = .lt
      by_cases htype : u.typeName = v.typeName
      · exact keyBefore_iff_of_typeName htype hu'
      · have hless : Ord.compare u.typeName v.typeName = .lt ↔ u.typeName < v.typeName :=
          compareOfLessAndEq_eq_lt
        rw [order_of_typeName_ne htype hu' hv', hless]
        constructor
        · intro h
          cases h with
          | type h => exact h
          | text | long | date => exact absurd rfl htype
        · exact .type

section WithoutDoubles

variable {o : Order} {order rest : List Order} {a b : Node}

/-- What holds of the keys of an order holds of those behind the first. -/
theorem Node.WithoutDoubles.tail (h : a.WithoutDoubles (o :: rest)) : a.WithoutDoubles rest :=
  fun other hother => h other (List.mem_cons_of_mem o hother)

/-- An entry puts the node first that compares as less. -/
theorem Order.before_iff (ha : a.WithoutDoubles (o :: rest)) (hb : b.WithoutDoubles (o :: rest)) :
    o.Before a b ↔ o.compareNodes a b = .lt := by
  rw [Order.Before, Order.compareNodes]
  cases hkey : o.key with
  | score => cases o.direction <;> exact ⟨False.elim, fun h => by cases h⟩
  | property p =>
    have hfirst := ha o List.mem_cons_self p hkey
    have hsecond := hb o List.mem_cons_self p hkey
    cases o.direction with
    | ascending => exact keyBefore_iff hfirst hsecond
    | descending =>
      have hswap : compareKeys (b.property? p.name) (a.property? p.name) =
          (compareKeys (a.property? p.name) (b.property? p.name)).swap := Std.OrientedCmp.eq_swap
      exact (keyBefore_iff hsecond hfirst).trans (iff_of_eq (congrArg (· = .lt) hswap))

/-- An entry does not tell nodes apart that compare as equal. -/
theorem Order.tied_iff (ha : a.WithoutDoubles (o :: rest)) (hb : b.WithoutDoubles (o :: rest)) :
    o.Tied a b ↔ o.compareNodes a b = .eq := by
  have hswap : o.compareNodes b a = (o.compareNodes a b).swap := Std.OrientedCmp.eq_swap
  rw [Order.Tied, Order.before_iff ha hb, Order.before_iff hb ha, hswap]
  cases o.compareNodes a b <;> decide

/-- The node comes first that compares as less. -/
theorem precedes_iff (ha : a.WithoutDoubles order) (hb : b.WithoutDoubles order) :
    Precedes order a b ↔ compareNodes order a b = .lt := by
  induction order with
  | nil => exact ⟨nofun, nofun⟩
  | cons o rest ih =>
    rw [compareNodes, Ordering.then_eq_lt, ← Order.before_iff ha hb, ← Order.tied_iff ha hb,
      ← ih ha.tail hb.tail]
    constructor
    · intro h
      cases h with
      | here h => exact .inl h
      | later htied h => exact .inr ⟨htied, h⟩
    · rintro (h | ⟨htied, h⟩)
      · exact .here h
      · exact .later htied h

/-- No entry tells nodes apart that compare as equal. -/
theorem forall_tied_iff (ha : a.WithoutDoubles order) (hb : b.WithoutDoubles order) :
    (∀ o ∈ order, o.Tied a b) ↔ compareNodes order a b = .eq := by
  induction order with
  | nil => exact ⟨fun _ => rfl, nofun⟩
  | cons o rest ih =>
    rw [List.forall_mem_cons, Order.tied_iff ha hb, ih ha.tail hb.tail, compareNodes,
      Ordering.then_eq_eq]

/-- Nodes without doubles have an order. -/
theorem orders_of_withoutDoubles {nodes : List Node} (h : ∀ n ∈ nodes, n.WithoutDoubles order) :
    Sorting.Orders (compareNodes order) nodes where
  swap _ _ _ _ := Std.OrientedCmp.eq_swap
  trans a ha b hb c hc hab hbc := by
    have horder : Std.TransCmp fun a b : {n | n ∈ nodes} => compareNodes order a b := by
      refine transCmp_order fun o ho => transCmp_entry (transCmp_key ?_)
      -- The value in the middle of those that go round is a double.
      rintro p hp a - b hb c - ⟨u, v, w, -, hv, -, hcircle⟩
      cases hcircle <;> exact h b hb o ho p hp _ hv
    have htrans := horder.isLE_trans (a := ⟨a, ha⟩) (b := ⟨b, hb⟩) (c := ⟨c, hc⟩)
    simp only [Ordering.isLE_iff_ne_gt] at htrans
    exact htrans hab hbc

end WithoutDoubles

/-! ### Sorting -/

/-- What a search on a lawful platform finds, unsorted and sorted. Without an order it finds the
nodes that are asked for in document order. With an order of keys under which none of these has a
double it finds the same nodes sorted: of any two of them the first one precedes the second one by
the first key that tells them apart, or no key does and they are in document order. If the engine
refuses a pattern of the criterion, both searches fail over it. -/
theorem Store.search_sorts {platform : Platform} (hplatform : platform.Lawful) {store : Store}
    {settings : SearchSettings} {d : Descriptor} (hruns : settings.failure = none)
    (hdoubles : ∀ n ∈ store.nodes, d.accepts n = true → n.WithoutDoubles d.order) (runs : ℕ) :
    let executor := store.executor platform settings
    let found := store.nodes.filter d.accepts
    (platform.engine.Compiles d.criterion.reduce → ∃ (size : Option ℕ) (sorted : List Node),
      executor.execute (d.withOrder []).withoutPaging runs =
        (.ok ⟨size, found.map rowOf⟩, runs + 1) ∧
      executor.execute d.withoutPaging runs = (.ok ⟨size, sorted.map rowOf⟩, runs + 1) ∧
      sorted.Perm found ∧
      sorted.Pairwise fun a b => Precedes d.order a b ∨
        (∀ o ∈ d.order, o.Tied a b) ∧ [a, b].Sublist store.nodes) ∧
    (¬ platform.engine.Compiles d.criterion.reduce → ∃ pattern ∈ d.criterion.reduce.patterns,
      ∃ why, pattern.expression platform.engine = .error (.internal why) ∧
        executor.execute (d.withOrder []).withoutPaging runs =
          (.error (.internal why), runs + 1) ∧
        executor.execute d.withoutPaging runs = (.error (.internal why), runs + 1)) := by
  intro executor found
  have hunsorted : store.hits platform (d.withOrder []) = store.found platform.engine d :=
    hits_of_order_nil rfl
  refine ⟨fun hcompiles => ?_, fun hrefused => ?_⟩
  · have hwithout : ∀ n ∈ found, n.WithoutDoubles d.order := fun n hn =>
      hdoubles n (List.mem_of_mem_filter hn) (List.of_mem_filter hn)
    obtain ⟨sorted, hhits, hsorted⟩ :=
      exists_hits hplatform hcompiles (orders_of_withoutDoubles hwithout)
    have hfound : store.found platform.engine d = .ok found := found_of_compiles hplatform.engine
      hcompiles store
    have hperm : sorted.Perm found := perm_of_hits hplatform hhits
    refine ⟨if settings.nativeSize then some found.length else none, sorted, ?_, ?_, hperm, ?_⟩
    · rw [execute_withoutPaging, hruns, hunsorted, hfound]
      rfl
    · rw [execute_withoutPaging, hruns, hhits, ← hperm.length_eq]
      rfl
    · refine hsorted.imp_of_mem fun {a b} ha hb hab => ?_
      have ha' := hwithout a (hperm.mem_iff.mp ha)
      have hb' := hwithout b (hperm.mem_iff.mp hb)
      rw [precedes_iff ha' hb', forall_tied_iff ha' hb']
      exact hab.imp_right fun ⟨htied, hlisted⟩ => ⟨htied, hlisted.trans List.filter_sublist⟩
  · obtain ⟨pattern, hpattern, why, hwhy, hfound⟩ := exists_found_eq_error hrefused store
    have hhits : store.hits platform d = .error (.internal why) := by
      rw [hits, hfound]
      rfl
    refine ⟨pattern, hpattern, why, hwhy, ?_, ?_⟩
    · rw [execute_withoutPaging, hruns, hunsorted, hfound]
      rfl
    · rw [execute_withoutPaging, hruns, hhits]
      rfl

/-- Four nodes below the root, three of them with a mark: two truth values and a text. -/
def Store.marked : Store :=
  ⟨⟨unstructured, []⟩, .cons "a" ⟨unstructured, [("mark", .boolean true)]⟩ .nil <|
    .cons "b" ⟨unstructured, []⟩ .nil <|
    .cons "c" ⟨unstructured, [("mark", .boolean false)]⟩ .nil <|
    .cons "d" ⟨unstructured, [("mark", .text "x")]⟩ .nil .nil⟩

/-- The question for all nodes, with the largest mark first. -/
def Descriptor.byMark : Descriptor :=
  (ofLanguage .sql2).withOrder [⟨.property ⟨"mark"⟩, .descending⟩]

/-- The text comes first, the truth values keep their order, and nodes without a mark come last. -/
theorem Store.search_sorts_marked : Platform.plain.Lawful ∧
    ∃ (size : Option ℕ) (sorted : List Node),
      (marked.executor .plain .standard).execute Descriptor.byMark.withoutPaging 0 =
        (.ok ⟨size, sorted.map rowOf⟩, 1) ∧
      sorted.map Node.path = ["/d", "/a", "/c", "/", "/b"] ∧
      sorted.Pairwise fun a b => Precedes Descriptor.byMark.order a b ∨
        (∀ o ∈ Descriptor.byMark.order, o.Tied a b) ∧ [a, b].Sublist marked.nodes := by
  have hdoubles : ∀ n ∈ marked.nodes, Descriptor.byMark.accepts n = true →
      n.WithoutDoubles Descriptor.byMark.order := by
    rintro n hn - o ho p hp x
    obtain rfl := List.mem_singleton.mp ho
    cases hp
    have hmarks : marked.nodes.map (·.property? "mark") =
        [none, some (.boolean true), none, some (.boolean false), some (.text "x")] := by decide
    have hmark := List.mem_map_of_mem (f := (·.property? "mark")) hn
    rw [hmarks] at hmark
    intro hdouble
    simp [hdouble] at hmark
  have hruns : SearchSettings.standard.failure = none := rfl
  obtain ⟨hsorts, -⟩ := search_sorts Platform.lawful_plain hruns hdoubles 0
  obtain ⟨size, sorted, -, hrun, -, hsorted⟩ := hsorts nofun
  refine ⟨Platform.lawful_plain, size, sorted, hrun, ?_, hsorted⟩
  have hpaths : (marked.hits .plain Descriptor.byMark).map (·.map Node.path) =
      .ok ["/d", "/a", "/c", "/", "/b"] := by
    decide +kernel
  have hinjective : Function.Injective rowOf := fun a b hab => congrArg Row.node (Except.ok.inj hab)
  rw [execute_withoutPaging, hruns] at hrun
  obtain ⟨nodes, hhits, hrows⟩ := Result.map_eq_ok.mp (Prod.mk.inj hrun).1
  obtain rfl := List.map_injective_iff.mpr hinjective (Cursor.mk.inj hrows).2
  rw [hhits] at hpaths
  exact Except.ok.inj hpaths

end ContentQuery
