import ContentQuery.Proofs.Number.Order
import ContentQuery.Repository.Search
import Mathlib.Data.Set.Basic

/-!
# The order of nodes

Nodes are compared by the entries of an order, the first of which that tells them apart decides.
Two nodes compare the other way around if they change places, whatever their values are. But the
order does not always pass from one node to the next: integers meet doubles as the doubles nearest
to them, so that two of them may be tied with one double, and what is not a number is tied with
every double. Where no three values of the nodes go round in one of these ways, the nodes can be
sorted by all orders.
-/

namespace ContentQuery

namespace Value

/-- The order of two values: values that do not compare are ordered by the names of their types. -/
def order (a b : Value) : Ordering := (a.compare b).getD (Ord.compare a.typeName b.typeName)

/-- The family of types that a value belongs to. Values that compare are of one family, and the
numbers of the families are in the order of the names of their types. -/
def family : Value → ℕ
  | boolean _ => 0
  | date _ => 1
  | double _ => 2
  | long _ => 2
  | text _ => 3

/-- Values of different families are ordered by the families. -/
theorem order_of_family_ne {a b : Value} (h : a.family ≠ b.family) :
    a.order b = Ord.compare a.family b.family := by
  cases a <;> cases b <;>
    first
      | exact absurd rfl h
      | simp only [order, compare, Option.getD_none, typeName, family]; decide

/-! ### Numbers -/

variable {m n : Int64} {x y : Double}

/-- An integer does not come behind a double if this is a number and not below the nearest one. -/
theorem order_long_double_ne_gt_iff :
    (long m).order (double y) ≠ .gt ↔ y.isNaN = false ∧ (Double.ofInt m.toInt).rank ≤ y.rank := by
  cases hy : y.isNaN with
  | true =>
    have hbehind : Ord.compare "LONG" "DOUBLE" = .gt := by decide
    simp [order, compare, Double.compare_of_isNaN (.inr hy), typeName, hbehind]
  | false =>
    simp only [order, compare, Double.compare_of_isNumber (Double.isNaN_ofInt _) hy,
      Option.getD_some, true_and, compare_le_iff_le]

/-- A double does not come behind an integer if it is no number or not above the nearest one. -/
theorem order_double_long_ne_gt_iff :
    (double x).order (long n) ≠ .gt ↔ x.isNaN = true ∨ x.rank ≤ (Double.ofInt n.toInt).rank := by
  cases hx : x.isNaN with
  | true =>
    have hbefore : Ord.compare "DOUBLE" "LONG" = .lt := by decide
    simp [order, compare, Double.compare_of_isNaN (.inl hx), typeName, hbefore]
  | false =>
    simp only [order, compare, Double.compare_of_isNumber hx (Double.isNaN_ofInt _),
      Option.getD_some, Bool.false_eq_true, false_or, compare_le_iff_le]

/-- A double does not come behind another one if one of them is no number or it is not above. -/
theorem order_double_double_ne_gt_iff :
    (double x).order (double y) ≠ .gt ↔
      x.isNaN = true ∨ y.isNaN = true ∨ x.rank ≤ y.rank := by
  by_cases h : x.isNaN = true ∨ y.isNaN = true
  · simp [order, compare, Double.compare_of_isNaN h, typeName, ← or_assoc, h]
  · obtain ⟨hx, hy⟩ := not_or.mp h
    rw [Bool.not_eq_true] at hx hy
    simp only [order, compare, Double.compare_of_isNumber hx hy, Option.getD_some, hx, hy,
      Bool.false_eq_true, false_or, compare_le_iff_le]

/-- Integers are ordered as such. -/
theorem order_long_long_ne_gt_iff : (long m).order (long n) ≠ .gt ↔ m.toInt ≤ n.toInt := by
  simp only [order, compare, Option.getD_some, compare_le_iff_le]

/-! ### Changing places -/

/-- Instants are ordered by their seconds and then by the rest. -/
instance : Std.TransCmp Instant.compare :=
  inferInstanceAs (Std.TransCmp (compareLex (compareOn Instant.seconds) (compareOn Instant.nanos)))

/-- Doubles compare the other way around if they change places. -/
theorem double_compare_swap (x y : Double) : y.compare x = (x.compare y).map Ordering.swap := by
  rw [Double.compare, Double.compare, Bool.or_comm]
  split
  · rfl
  · exact congrArg some Std.OrientedCmp.eq_swap

/-- Values compare the other way around if they change places. -/
theorem compare_swap (a b : Value) : b.compare a = (a.compare b).map Ordering.swap := by
  cases a <;> cases b
  case text.text | long.long => exact congrArg some Std.OrientedOrd.eq_swap
  case date.date s t => exact congrArg some (Std.OrientedCmp.eq_swap : t.compare s = _)
  case boolean.boolean a b => cases a <;> cases b <;> rfl
  case double.double | long.double | double.long => exact double_compare_swap _ _
  all_goals rfl

/-- Values are ordered the other way around if they change places. -/
instance : Std.OrientedCmp order where
  eq_swap {a b} := by
    rw [order, order, compare_swap b a]
    cases b.compare a with
    | none => exact Std.OrientedOrd.eq_swap
    | some ordering => rfl

/-! ### Going round -/

/-- Three values of which the first does not come behind the second and the second not behind the
third, but the first behind the third. -/
inductive Circle : Value → Value → Value → Prop
  /-- A double above a number, where what is not a number is tied with the one and not behind the
  other. -/
  | past {x y : Double} {v : Value} (hy : y.isNaN = true)
    (h : (double x).compare v = some .gt) : Circle (double x) (double y) v
  /-- An integer that is not above a double, which is tied with what is not a number; integers come
  behind that. -/
  | into {n : Int64} {x y : Double} {ordering : Ordering}
    (h : (long n).compare (double x) = some ordering) (hle : ordering ≠ .gt)
    (hy : y.isNaN = true) : Circle (long n) (double x) (double y)
  /-- Two integers that have the same nearest double. -/
  | rounded {m n : Int64} {x : Double} (h : n.toInt < m.toInt)
    (hm : (long m).compare (double x) = some .eq) (hn : (double x).compare (long n) = some .eq) :
    Circle (long m) (double x) (long n)

/-- What goes round passes on twice. -/
theorem Circle.passes {a b c : Value} (h : Circle a b c) :
    a.order b ≠ .gt ∧ b.order c ≠ .gt ∧ a.order c = .gt := by
  cases h with
  | past hy h =>
    refine ⟨order_double_double_ne_gt_iff.mpr (.inr (.inl hy)), ?_, ?_⟩
    swap
    · rw [order, h, Option.getD_some]
    cases c with
    | double z => exact order_double_double_ne_gt_iff.mpr (.inl hy)
    | long n => exact order_double_long_ne_gt_iff.mpr (.inl hy)
    | text | boolean | date => cases h
  | into h hle hy =>
    refine ⟨?_, order_double_double_ne_gt_iff.mpr (.inr (.inl hy)), ?_⟩
    · rwa [order, h, Option.getD_some]
    · by_contra hne
      have hnumber := (order_long_double_ne_gt_iff.mp hne).1
      exact Bool.false_ne_true (hnumber.symm.trans hy)
  | rounded h hm hn =>
    refine ⟨?_, ?_, ?_⟩
    · rw [order, hm, Option.getD_some]
      decide
    · rw [order, hn, Option.getD_some]
      decide
    · by_contra hne
      exact absurd (order_long_long_ne_gt_iff.mp hne) (Int.not_le.mpr h)

/-- Where one family follows another, so do their values. -/
theorem family_le_of_order_ne_gt {a b : Value} (h : a.order b ≠ .gt) : a.family ≤ b.family := by
  by_cases hfamily : a.family = b.family
  · exact hfamily.le
  · rw [order_of_family_ne hfamily] at h
    exact compare_le_iff_le.mp h

/-- A double comes behind a number only because it is above. -/
theorem compare_eq_gt_of_order {v : Value} (hv : v.isNumeric = true)
    (h : (double x).order v = .gt) : (double x).compare v = some .gt := by
  rw [order] at h
  cases hcompare : (double x).compare v with
  | some ordering =>
    rw [hcompare, Option.getD_some] at h
    rw [h]
  | none =>
    rw [hcompare, Option.getD_none] at h
    cases v with
    | long => exact absurd h (by simp only [typeName]; decide)
    | double => exact absurd h (by simp only [typeName]; decide)
    | text | boolean | date => cases hv

/-- Values of one family are ordered from one to the next unless they go round. -/
theorem order_trans_of_family_eq {a b c : Value} (hfirst : a.family = b.family)
    (hsecond : b.family = c.family) (hcircle : ¬ Circle a b c) (hab : a.order b ≠ .gt)
    (hbc : b.order c ≠ .gt) : a.order c ≠ .gt := by
  cases a <;> cases b <;> cases c <;> try first
    | (cases hfirst; done)
    | (cases hsecond; done)
  case text.text.text s t u =>
    have htrans : Ord.compare s u ≠ .gt := Std.TransCmp.le_trans (hab : Ord.compare s t ≠ .gt) hbc
    exact htrans
  case date.date.date s t u =>
    have htrans : s.compare u ≠ .gt := Std.TransCmp.le_trans (hab : s.compare t ≠ .gt) hbc
    exact htrans
  case boolean.boolean.boolean s t u =>
    cases s <;> cases u <;> decide
  case long.long.long =>
    rw [order_long_long_ne_gt_iff] at *
    exact hab.trans hbc
  case long.long.double =>
    rw [order_long_long_ne_gt_iff] at hab
    rw [order_long_double_ne_gt_iff] at *
    exact ⟨hbc.1, (Double.rank_ofInt_mono hab).trans hbc.2⟩
  case long.double.long m x n =>
    rw [order_long_double_ne_gt_iff] at hab
    rw [order_double_long_ne_gt_iff] at hbc
    rw [order_long_long_ne_gt_iff]
    by_contra hlt
    rw [Int.not_le] at hlt
    -- Both integers have the place of the double, as rounding keeps their order.
    have hmono := Double.rank_ofInt_mono hlt.le
    have hle := hbc.resolve_left (by simp [hab.1])
    have hm : (Double.ofInt m.toInt).rank = x.rank := by omega
    have hn : x.rank = (Double.ofInt n.toInt).rank := by omega
    refine hcircle (.rounded hlt ?_ ?_)
    · rw [compare, Double.compare_of_isNumber (Double.isNaN_ofInt _) hab.1, hm,
        Std.ReflOrd.compare_self]
    · rw [compare, Double.compare_of_isNumber hab.1 (Double.isNaN_ofInt _), hn,
        Std.ReflOrd.compare_self]
  case long.double.double m x y =>
    rw [order_long_double_ne_gt_iff] at hab
    cases hy : y.isNaN with
    | true =>
      refine absurd (.into ?_ (compare_le_iff_le.mpr hab.2) hy) hcircle
      exact Double.compare_of_isNumber (Double.isNaN_ofInt _) hab.1
    | false =>
      rw [order_double_double_ne_gt_iff] at hbc
      rw [order_long_double_ne_gt_iff]
      simp only [hab.1, hy, Bool.false_eq_true, false_or] at hbc
      exact ⟨hy, hab.2.trans hbc⟩
  case double.long.long =>
    rw [order_double_long_ne_gt_iff] at *
    rw [order_long_long_ne_gt_iff] at hbc
    exact hab.imp_right fun hle => hle.trans (Double.rank_ofInt_mono hbc)
  case double.long.double =>
    rw [order_double_long_ne_gt_iff] at hab
    rw [order_long_double_ne_gt_iff] at hbc
    rw [order_double_double_ne_gt_iff]
    exact hab.imp_right fun hle => .inr (hle.trans hbc.2)
  case double.double.long x y n =>
    cases hy : y.isNaN with
    | true => exact fun hgt => hcircle (.past hy (compare_eq_gt_of_order rfl hgt))
    | false =>
      rw [order_double_double_ne_gt_iff] at hab
      rw [order_double_long_ne_gt_iff] at *
      simp only [hy, Bool.false_eq_true, false_or] at hab hbc
      exact hab.imp_right fun hle => hle.trans hbc
  case double.double.double x y z =>
    cases hy : y.isNaN with
    | true => exact fun hgt => hcircle (.past hy (compare_eq_gt_of_order rfl hgt))
    | false =>
      rw [order_double_double_ne_gt_iff] at *
      simp only [hy, Bool.false_eq_true, false_or] at hab hbc
      rcases hab with hx | hxy
      · exact .inl hx
      · exact .inr (hbc.imp_right hxy.trans)

/-- Values are ordered from one to the next unless they go round. -/
theorem order_trans {a b c : Value} (hcircle : ¬ Circle a b c) (hab : a.order b ≠ .gt)
    (hbc : b.order c ≠ .gt) : a.order c ≠ .gt := by
  have hfirst := family_le_of_order_ne_gt hab
  have hsecond := family_le_of_order_ne_gt hbc
  by_cases hfamily : a.family = c.family
  · exact order_trans_of_family_eq (by omega) (by omega) hcircle hab hbc
  · rw [order_of_family_ne hfamily, compare_le_iff_le]
    omega

end Value

/-- Values of a key, absent or not, are ordered the other way around if they change places. -/
instance : Std.OrientedCmp compareKeys where
  eq_swap {a b} := by
    cases a <;> cases b
    case some.some u v =>
      have hswap : u.order v = (v.order u).swap := Std.OrientedCmp.eq_swap
      exact hswap
    all_goals rfl

namespace Node

/-- Three nodes whose values of a property go round. -/
def Circle (p : Property) (a b c : Node) : Prop :=
  ∃ u v w, a.property? p.name = some u ∧ b.property? p.name = some v ∧
    c.property? p.name = some w ∧ Value.Circle u v w

/-- The values of a property are ordered from one node to the next unless they go round. -/
theorem compareKeys_trans {p : Property} {a b c : Node} (hcircle : ¬ Circle p a b c)
    (hab : compareKeys (a.property? p.name) (b.property? p.name) ≠ .gt)
    (hbc : compareKeys (b.property? p.name) (c.property? p.name) ≠ .gt) :
    compareKeys (a.property? p.name) (c.property? p.name) ≠ .gt := by
  cases ha : a.property? p.name with
  | none => cases c.property? p.name <;> nofun
  | some u =>
    cases hb : b.property? p.name with
    | none =>
      rw [ha, hb] at hab
      exact absurd rfl hab
    | some v =>
      cases hc : c.property? p.name with
      | none =>
        rw [hb, hc] at hbc
        exact absurd rfl hbc
      | some w =>
        rw [ha, hb] at hab
        rw [hb, hc] at hbc
        exact Value.order_trans (fun h => hcircle ⟨u, v, w, ha, hb, hc, h⟩) hab hbc

end Node

/-! ### Entries -/

/-- The order of two nodes by a key alone. -/
def SortKey.compareNodes : SortKey → Node → Node → Ordering
  | .score, _, _ => .eq
  | .property p, a, b => compareKeys (a.property? p.name) (b.property? p.name)

/-- Nodes compare the other way around by a key if they change places. -/
instance (key : SortKey) : Std.OrientedCmp key.compareNodes where
  eq_swap {a b} := by
    cases key with
    | score => rfl
    | property p =>
      have hswap (u v : Option Value) : compareKeys u v = (compareKeys v u).swap :=
        Std.OrientedCmp.eq_swap
      exact hswap _ _

namespace Order

variable {o : Order}

/-- An ascending entry compares by its key. -/
theorem compareNodes_ascending (h : o.direction = .ascending) :
    o.compareNodes = o.key.compareNodes := by
  funext a b
  rw [Order.compareNodes, h]
  cases o.key <;> rfl

/-- A descending entry compares the other way around. -/
theorem compareNodes_descending (h : o.direction = .descending) :
    o.compareNodes = fun a b => o.key.compareNodes b a := by
  funext a b
  have hswap : o.key.compareNodes b a = (o.key.compareNodes a b).swap := Std.OrientedCmp.eq_swap
  rw [Order.compareNodes, h, hswap]
  cases o.key <;> rfl

/-- Nodes compare the other way around by an entry if they change places. -/
instance (o : Order) : Std.OrientedCmp o.compareNodes := by
  cases h : o.direction with
  | ascending =>
    rw [compareNodes_ascending h]
    infer_instance
  | descending =>
    rw [compareNodes_descending h]
    infer_instance

end Order

/-- Entries are compared one after the other. -/
theorem compareNodes_cons (o : Order) (rest : List Order) :
    compareNodes (o :: rest) = compareLex o.compareNodes (compareNodes rest) :=
  rfl

/-- Nodes compare the other way around if they change places. -/
instance (order : List Order) : Std.OrientedCmp (compareNodes order) := by
  induction order with
  | nil => exact ⟨rfl⟩
  | cons o rest ih =>
    rw [compareNodes_cons]
    infer_instance

section Among

variable {nodes : Set Node}

/-- A key orders nodes that do not go round by it. -/
theorem transCmp_key {key : SortKey}
    (h : ∀ p, key = .property p → ∀ a ∈ nodes, ∀ b ∈ nodes, ∀ c ∈ nodes, ¬ Node.Circle p a b c) :
    Std.TransCmp fun a b : nodes => key.compareNodes a b where
  eq_swap := Std.OrientedCmp.eq_swap
  isLE_trans {a b c} hab hbc := by
    cases key with
    | score => rfl
    | property p =>
      rw [Ordering.isLE_iff_ne_gt] at *
      exact Node.compareKeys_trans (h p rfl a a.2 b b.2 c c.2) hab hbc

/-- An entry orders the nodes that its key orders. -/
theorem transCmp_entry {o : Order} (h : Std.TransCmp fun a b : nodes => o.key.compareNodes a b) :
    Std.TransCmp fun a b : nodes => o.compareNodes a b := by
  cases hdirection : o.direction with
  | ascending =>
    rw [Order.compareNodes_ascending hdirection]
    exact h
  | descending =>
    rw [Order.compareNodes_descending hdirection]
    infer_instance

/-- Entries order the nodes that each of them orders. -/
theorem transCmp_order {order : List Order}
    (h : ∀ o ∈ order, Std.TransCmp fun a b : nodes => o.compareNodes a b) :
    Std.TransCmp fun a b : nodes => compareNodes order a b := by
  induction order with
  | nil => exact { eq_swap := rfl, isLE_trans := fun _ _ => rfl }
  | cons o rest ih =>
    have hfirst := h o List.mem_cons_self
    have hrest := ih fun other hother => h other (List.mem_cons_of_mem o hother)
    exact inferInstanceAs (Std.TransCmp (compareLex (fun a b : nodes => o.compareNodes a b)
      fun a b : nodes => compareNodes rest a b))

end Among

/-! ### Sorting -/

/-- Whatever the values of nodes are, a node is tied with itself, and two nodes compare the other
way around if they change places. Nodes are ordered from one to the next by all orders of some keys
exactly if no three of them go round by one of these keys. -/
theorem compareNodes_preorder_iff (keys : Set SortKey) (nodes : Set Node) :
    (∀ order a, compareNodes order a a = .eq) ∧
    (∀ order a b, compareNodes order b a = (compareNodes order a b).swap) ∧
    ((∀ order : List Order, (∀ o ∈ order, o.key ∈ keys) →
        ∀ a ∈ nodes, ∀ b ∈ nodes, ∀ c ∈ nodes, compareNodes order a b ≠ .gt →
          compareNodes order b c ≠ .gt → compareNodes order a c ≠ .gt) ↔
      ∀ p, .property p ∈ keys →
        ∀ a ∈ nodes, ∀ b ∈ nodes, ∀ c ∈ nodes, ¬ Node.Circle p a b c) := by
  refine ⟨fun order a => Std.ReflCmp.compare_self, fun order a b => Std.OrientedCmp.eq_swap,
    ?_, ?_⟩
  · rintro h p hp a ha b hb c hc ⟨u, v, w, hu, hv, hw, hcircle⟩
    obtain ⟨hab, hbc, hac⟩ := hcircle.passes
    have htrans := h [⟨.property p, .ascending⟩] (by simpa using hp) a ha b hb c hc
    simp only [compareNodes, Order.compareNodes, hu, hv, hw, Ordering.then_eq] at htrans
    exact htrans hab hbc hac
  · intro h order hkeys a ha b hb c hc hab hbc
    have horder : Std.TransCmp fun a b : nodes => compareNodes order a b := by
      refine transCmp_order fun o ho => transCmp_entry (transCmp_key ?_)
      rintro p hp
      exact h p (hp ▸ hkeys o ho)
    have htrans := horder.isLE_trans (a := ⟨a, ha⟩) (b := ⟨b, hb⟩) (c := ⟨c, hc⟩)
    simp only [Ordering.isLE_iff_ne_gt] at htrans
    exact htrans hab hbc

/-- An order does not pass on where two integers are tied with one double, and where what is not a
number stands between two doubles. -/
theorem order_goes_round :
    let order : List Order := [⟨.property ⟨"n"⟩, .ascending⟩]
    let holding (v : Value) : Node := ⟨"/a", ⟨unstructured, [("n", v)]⟩⟩
    let goesRound (u v w : Value) : Prop :=
      compareNodes order (holding u) (holding v) ≠ .gt ∧
      compareNodes order (holding v) (holding w) ≠ .gt ∧
      compareNodes order (holding u) (holding w) = .gt
    goesRound (.long 9007199254740993) (.double (.ofInt 9007199254740992))
      (.long 9007199254740992) ∧
    goesRound (.double (.ofInt 2)) (.double .nan) (.double (.ofInt 1)) := by
  decide +kernel

end ContentQuery
