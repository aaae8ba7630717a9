import ContentQuery.Proofs.Statement.Condition
import ContentQuery.Proofs.Statement.Order
import ContentQuery.Proofs.Statement.Request
import ContentQuery.Statement.Sql2

/-!
# Reading select statements

A select statement is read from its beginning: the node type up to a bracket, the condition by the
grammar of conditions, and the order entry by entry. What is read is what the statement was written
from, whatever characters its texts hold and whichever connective the reader lets bind tighter.
-/

namespace ContentQuery

namespace Sql2

open Text (afterStart?)

/-- Reads a column. -/
def readColumn? : List Char → Option (Property × List Char)
  | 'a' :: '.' :: '*' :: rest => some (.node, rest)
  | 'a' :: '.' :: '[' :: rest => do
    let more ← afterStart? [']'] (rest.dropWhile (· != ']'))
    return (⟨String.ofList (rest.takeWhile (· != ']'))⟩, more)
  | _ => none

/-- Reads an operand. -/
def readOperand? (s : List Char) : Option (Value × List Char) :=
  match s with
  | '\x27' :: _ => (Literal.readText? s).map fun (t, rest) => (.text t, rest)
  | _ =>
    match afterStart? "CAST(".toList s with
    | none => Literal.readNumber? s
    | some rest => do
      let (t, rest) ← Literal.readText? rest
      match afterStart? " AS BOOLEAN)".toList rest with
      | some rest => return (.boolean (t = "true"), rest)
      | none =>
        let rest ← afterStart? " AS DATE)".toList rest
        let moment ← Instant.ofText? t
        return (.date moment, rest)

/-- Reads what is asked of a column. -/
def readTest? (p : Property) (s : List Char) : Option (Condition × List Char) :=
  match afterStart? " IS NULL".toList s, afterStart? " IS NOT NULL".toList s,
    afterStart? " LIKE ".toList s with
  | some rest, _, _ => some (.presence p false, rest)
  | _, some rest, _ => some (.presence p true, rest)
  | _, _, some rest => (Literal.readText? rest).map fun (t, rest) => (.like p t, rest)
  | none, none, none => do
    let (op, rest) ← Comparator.read? operator s
    let (v, rest) ← readOperand? rest
    return (.compare p op v, rest)

/-- Reads a condition without connectives. -/
def readAtom? (s : List Char) : Option (Condition × List Char) :=
  match afterStart? "CONTAINS(".toList s, afterStart? "ISDESCENDANTNODE(a, ".toList s with
  | some rest, _ => do
    let (p, rest) ← readColumn? rest
    let rest ← afterStart? ", ".toList rest
    let (t, rest) ← Literal.readText? rest
    let rest ← afterStart? ")".toList rest
    return (.contains p t, rest)
  | _, some rest => do
    let (path, rest) ← Literal.readText? rest
    let rest ← afterStart? ")".toList rest
    return (.descendantOf path, rest)
  | none, none => do
    let (p, rest) ← readColumn? s
    readTest? p rest

/-- The grammar of conditions. -/
def grammar : Grammar Condition where
  word := word
  negation := "NOT ("
  negate := .not
  junction := .junction
  atom := readAtom?

/-- The atoms of the grammar. -/
theorem grammar_atom : grammar.atom = readAtom? := rfl

/-- What is read from a statement. -/
structure Reading where
  nodeType : String
  /-- The condition; without one all nodes are asked for. -/
  condition : Option Condition
  order : List Order

/-- Reads a sort key. -/
def readKey? (s : List Char) : Option (SortKey × List Char) :=
  match afterStart? "SCORE(a)".toList s with
  | some rest => some (.score, rest)
  | none => (readColumn? s).map fun (p, rest) => (.property p, rest)

/-- Reads the direction behind a sort key. -/
def readDirection? (s : List Char) : Option (Direction × List Char) :=
  match afterStart? " ASC".toList s with
  | some rest => some (.ascending, rest)
  | none => (afterStart? " DESC".toList s).map (.descending, ·)

/-- Reads an entry of the order. -/
def readSorting? (s : List Char) : Option (Order × List Char) := do
  let (key, rest) ← readKey? s
  let (direction, rest) ← readDirection? rest
  return (⟨key, direction⟩, rest)

/-- Reads the clause of an order, or the end. -/
def readOrder? : List Char → Option (List Order) := Order.readClause? " ORDER BY " readSorting?

/-- Reads the clause of a condition, if there is one. -/
def readWhere? (tight : Connective) (s : List Char) : Option (Option Condition × List Char) :=
  match afterStart? " WHERE ".toList s with
  | none => some (none, s)
  | some s => (grammar.read tight (s.length + 1) s).map fun (c, rest) => (some c, rest)

/-- Reads a statement, with one connective binding tighter than the other. -/
def read? (tight : Connective) (text : String) : Option Reading := do
  let s ← afterStart? "SELECT a.* FROM [".toList text.toList
  let type := String.ofList (s.takeWhile (· != ']'))
  let s ← afterStart? "] AS a".toList (s.dropWhile (· != ']'))
  let (condition, s) ← readWhere? tight s
  let order ← readOrder? s
  return ⟨type, condition, order⟩

/-- A column is read back. -/
theorem readColumn?_column {p : Property} (h : p.Accepted) (rest : List Char) :
    readColumn? ((column p).toList ++ rest) = some (p, rest) := by
  obtain ⟨name⟩ := p
  rw [column]
  split
  · next hnode =>
    obtain rfl : name = "." := by simpa [Property.isNode] using hnode
    rfl
  · have hlegal : ∀ c ∈ name.toList, (c != ']') = true := by
      intro c hc
      have hne : ']' ≠ c := Text.ne_of_kind rfl (h.plain.2 c hc)
      exact bne_iff_ne.mpr hne.symm
    have hclose : ∀ c ∈ (']' :: rest).head?, (c != ']') = false := by simp
    have htext : ("a.[" ++ name ++ "]").toList ++ rest =
        'a' :: '.' :: '[' :: (name.toList ++ ']' :: rest) := by simp
    simp only [htext, readColumn?, Text.takeWhile_append hlegal hclose,
      Text.dropWhile_append hlegal hclose, afterStart?, if_true, Option.bind_eq_bind,
      Option.bind_some, String.ofList_toList]
    rfl

/-- The sign of a comparison is read back. -/
theorem read?_operator (op : Comparator) (rest : List Char) :
    Comparator.read? operator (' ' :: (operator op).toList ++ [' '] ++ rest) = some (op, rest) := by
  cases op <;> rfl

/-- A text is read at a quote. -/
theorem readOperand?_quote (s : List Char) : readOperand? ('\x27' :: s) =
    (Literal.readText? ('\x27' :: s)).map fun (t, rest) => (.text t, rest) := rfl

/-- A number is read as one. -/
theorem readOperand?_number {s : List Char} (h : Literal.IsNumber s) (rest : List Char) :
    readOperand? (s ++ rest) = Literal.readNumber? (s ++ rest) := by
  obtain ⟨c, more, hcons, hc⟩ := h.exists_cons rest
  have hquote : c ≠ '\x27' := Text.ne_of_kind hc rfl
  have hcast : 'C' ≠ c := (Text.ne_of_kind hc rfl).symm
  have hnone : afterStart? "CAST(".toList (c :: more) = none := if_neg hcast
  rw [hcons]
  unfold readOperand?
  split
  · next heq => exact absurd (List.cons.inj heq).1 hquote
  · rw [hnone]

/-- An operand is read back as statements show it. -/
theorem readOperand?_operand {v : Value} (hv : v.InRange) {s : String} (h : operand v = .ok s)
    {rest : List Char} (hrest : Grammar.Boundary rest) :
    readOperand? (s.toList ++ rest) = some (v.shown, rest) := by
  cases v with
  | text t =>
    cases h
    exact (Literal.IsShared.text t).read_append readOperand?_quote readOperand?_number hrest
  | long n =>
    cases h
    exact (Literal.IsShared.long n).read_append readOperand?_quote readOperand?_number hrest
  | double x =>
    exact (Literal.IsShared.double h).read_append readOperand?_quote readOperand?_number hrest
  | boolean b =>
    cases h
    cases b <;> rfl
  | date t =>
    cases h
    have hread : Literal.readText? ('\x27' :: ((t.write .millis).toList ++
        '\x27' :: (" AS DATE)".toList ++ rest))) =
        some (t.write .millis, " AS DATE)".toList ++ rest) := by
      rw [Literal.readText?_plain t.quote_not_mem_write (by simp), String.ofList_toList]
    have htext : ("CAST('" ++ t.write .millis ++ "' AS DATE)").toList ++ rest =
        "CAST(".toList ++ ('\x27' :: ((t.write .millis).toList ++
          '\x27' :: (" AS DATE)".toList ++ rest))) := by simp
    have hboolean : afterStart? " AS BOOLEAN)".toList (" AS DATE)".toList ++ rest) = none := rfl
    rw [htext]
    unfold readOperand?
    split
    · next heq => cases heq
    · rw [Text.afterStart?_append]
      simp only [hread, Option.bind_eq_bind, Option.bind_some, hboolean, Text.afterStart?_append,
        Instant.ofText?_write hv]
      rfl

/-- The grammar of conditions is lawful. -/
theorem lawful : grammar.Lawful := by
  refine ⟨fun k => ?_, fun k rest => ?_⟩
  · cases k
    · exact ⟨'A', "ND ".toList, rfl, rfl⟩
    · exact ⟨'O', "R ".toList, rfl, rfl⟩
  · cases k <;> rfl

/-- What begins with a column begins with the name of the selector. -/
theorem column_starts (p : Property) (s : List Char) :
    ∃ more, (column p).toList ++ s = 'a' :: more := by
  rw [column]
  split
  · exact ⟨_, rfl⟩
  · exact ⟨('.' :: '[' :: (p.name.toList ++ ']' :: s)), by simp⟩

/-- A test of a column is an atom if the test is read back. -/
theorem isAtom_test {p : Property} (hp : p.Accepted) {test : String} {c : Condition}
    (h : ∀ rest, Grammar.Boundary rest → readTest? p (test.toList ++ rest) = some (c, rest)) :
    grammar.IsAtom (column p ++ test) c := by
  have htext (rest : List Char) : (column p ++ test).toList ++ rest =
      (column p).toList ++ (test.toList ++ rest) := by simp
  refine ⟨fun rest => ?_, fun rest hrest => ?_⟩
  · obtain ⟨more, hmore⟩ := column_starts p (test.toList ++ rest)
    rw [htext, hmore]
    exact ⟨rfl, by simp⟩
  · have hcontains : afterStart? "CONTAINS(".toList
        ((column p).toList ++ (test.toList ++ rest)) = none := by
      obtain ⟨more, hmore⟩ := column_starts p (test.toList ++ rest)
      rw [hmore]
      rfl
    have hdescendant : afterStart? "ISDESCENDANTNODE(a, ".toList
        ((column p).toList ++ (test.toList ++ rest)) = none := by
      obtain ⟨more, hmore⟩ := column_starts p (test.toList ++ rest)
      rw [hmore]
      rfl
    rw [grammar_atom]
    unfold readAtom?
    rw [htext, hcontains, hdescendant]
    simp only [readColumn?_column hp, Option.bind_eq_bind, Option.bind_some]
    exact h rest hrest

/-- A comparison is an atom. -/
theorem isAtom_compare {p : Property} (hp : p.Accepted) (op : Comparator) {v : Value}
    (hv : v.InRange) {s : String} (h : operand v = .ok s) :
    grammar.IsAtom (column p ++ " " ++ operator op ++ " " ++ s) (.compare p op v.shown) := by
  have htext : column p ++ " " ++ operator op ++ " " ++ s =
      column p ++ (" " ++ operator op ++ " " ++ s) := by simp only [String.append_assoc]
  rw [htext]
  apply isAtom_test hp
  intro rest hrest
  have hsplit : (" " ++ operator op ++ " " ++ s).toList ++ rest =
      ' ' :: (operator op).toList ++ [' '] ++ (s.toList ++ rest) := by simp
  have hnone : afterStart? " IS NULL".toList (' ' :: (operator op).toList ++ [' '] ++
        (s.toList ++ rest)) = none ∧
      afterStart? " IS NOT NULL".toList (' ' :: (operator op).toList ++ [' '] ++
        (s.toList ++ rest)) = none ∧
      afterStart? " LIKE ".toList (' ' :: (operator op).toList ++ [' '] ++
        (s.toList ++ rest)) = none := by
    cases op <;> exact ⟨rfl, rfl, rfl⟩
  rw [hsplit, readTest?, hnone.1, hnone.2.1, hnone.2.2]
  simp only [read?_operator, readOperand?_operand hv h hrest, Option.bind_eq_bind,
    Option.bind_some]
  rfl

/-- A match with a pattern is an atom. -/
theorem isAtom_like {p : Property} (hp : p.Accepted) (pattern : Pattern) :
    grammar.IsAtom (column p ++ " LIKE " ++ Literal.text pattern.write)
      (.like p pattern.write) := by
  rw [String.append_assoc]
  apply isAtom_test hp
  intro rest hrest
  have hsplit : (" LIKE " ++ Literal.text pattern.write).toList ++ rest =
      " LIKE ".toList ++ ((Literal.text pattern.write).toList ++ rest) := by simp
  have hnull (more : List Char) : afterStart? " IS NULL".toList (" LIKE ".toList ++ more) = none :=
    rfl
  have hnot (more : List Char) :
      afterStart? " IS NOT NULL".toList (" LIKE ".toList ++ more) = none := rfl
  rw [hsplit, readTest?, hnull, hnot, Text.afterStart?_append]
  simp only [Literal.readText?_text _ (Literal.head?_ne_quote_of_boundary hrest), Option.map_some]

/-- A test for presence is an atom. -/
theorem isAtom_presence {p : Property} (hp : p.Accepted) (present : Bool) :
    grammar.IsAtom (column p ++ (if present then " IS NOT NULL" else " IS NULL"))
      (.presence p present) := by
  apply isAtom_test hp
  intro rest _
  cases present <;> rfl

/-- A search for words is an atom. -/
theorem isAtom_contains {p : Property} (hp : p.Accepted) (t : String) :
    grammar.IsAtom ("CONTAINS(" ++ column p ++ ", " ++ Literal.text t ++ ")") (.contains p t) := by
  have htext (rest : List Char) :
      ("CONTAINS(" ++ column p ++ ", " ++ Literal.text t ++ ")").toList ++ rest =
      "CONTAINS(".toList ++ ((column p).toList ++ (", ".toList ++ ((Literal.text t).toList ++
        (")".toList ++ rest)))) := by simp
  refine ⟨fun rest => ?_, fun rest _ => ?_⟩
  · rw [htext]
    exact ⟨rfl, by simp⟩
  · rw [grammar_atom, htext, readAtom?, Text.afterStart?_append]
    simp only [readColumn?_column hp, Text.afterStart?_append, Literal.readText?_text t
      (by simp : (")".toList ++ rest).head? ≠ some '\x27'), Option.bind_eq_bind, Option.bind_some]
    rfl

/-- A test for the place of a node is an atom. -/
theorem isAtom_descendantOf (path : String) :
    grammar.IsAtom ("ISDESCENDANTNODE(a, " ++ Literal.text path ++ ")") (.descendantOf path) := by
  have htext (rest : List Char) :
      ("ISDESCENDANTNODE(a, " ++ Literal.text path ++ ")").toList ++ rest =
      "ISDESCENDANTNODE(a, ".toList ++ ((Literal.text path).toList ++ (")".toList ++ rest)) := by
    simp
  have hcontains (more : List Char) :
      afterStart? "CONTAINS(".toList ("ISDESCENDANTNODE(a, ".toList ++ more) = none := rfl
  refine ⟨fun rest => ?_, fun rest _ => ?_⟩
  · rw [htext]
    exact ⟨rfl, by simp⟩
  · rw [grammar_atom, htext, readAtom?, hcontains, Text.afterStart?_append]
    simp only [Text.afterStart?_append, Literal.readText?_text path
      (by simp : (")".toList ++ rest).head? ≠ some '\x27'), Option.bind_eq_bind, Option.bind_some]
    rfl

/-- A condition that is written is read back. -/
theorem reads_condition (tight : Connective) {p : Predicate} (hp : p.WellFormed) :
    ∀ {s : String}, condition p = .ok s → grammar.Reads tight s (p.shown .not) := by
  induction hp with
  | compare op hp hv =>
    intro s h
    obtain ⟨right, hright, h⟩ := Result.bind_eq_ok.mp h
    cases h
    exact ((isAtom_compare hp op hv hright).readsUnit tight).reads
  | like pattern hp =>
    intro s h
    cases h
    exact ((isAtom_like hp pattern).readsUnit tight).reads
  | contains t hp =>
    intro s h
    cases h
    exact ((isAtom_contains hp t).readsUnit tight).reads
  | presence present hp =>
    intro s h
    cases h
    exact ((isAtom_presence hp present).readsUnit tight).reads
  | descendantOf path =>
    intro s h
    cases h
    exact ((isAtom_descendantOf path).readsUnit tight).reads
  | not _ ih =>
    intro s h
    obtain ⟨inner, hinner, h⟩ := Result.bind_eq_ok.mp h
    cases h
    have htext : "NOT " ++ enclose inner = grammar.negation ++ inner ++ ")" := by
      have hopen : grammar.negation = "NOT " ++ "(" := rfl
      simp only [hopen, enclose, String.append_assoc]
    rw [htext]
    exact ((ih hinner).negated lawful).reads
  | @junction k parts hlen _ ih =>
    intro s h
    obtain ⟨texts, htexts, h⟩ := Result.bind_eq_ok.mp h
    cases h
    have hunits : List.Forall₂ (grammar.ReadsUnit tight) (texts.map enclose)
        (parts.map (Predicate.shown .not)) := by
      rw [List.forall₂_map_left_iff]
      exact Result.forall₂_of_each condition conditions rfl (fun _ _ => rfl) htexts
        fun p hp s hs => (ih p hp hs).enclosed lawful fun rest => rfl
    rw [Predicate.shown, Predicate.shownAll_eq]
    exact Grammar.reads_junction lawful k hunits (by simpa using hlen)

/-- An entry of the order is read back. -/
theorem readSorting?_orderEntry {o : Order} (h : o.key.Accepted) (rest : List Char) :
    readSorting? ((orderEntry o).toList ++ rest) = some (o, rest) := by
  obtain ⟨key, direction⟩ := o
  cases key with
  | score => cases direction <;> rfl
  | property p =>
    have hkey (s : List Char) :
        readKey? ((column p).toList ++ s) = some (.property p, s) := by
      have hnone : afterStart? "SCORE(a)".toList ((column p).toList ++ s) = none := by
        obtain ⟨more, hmore⟩ := column_starts p s
        rw [hmore]
        rfl
      rw [readKey?, hnone]
      simp only [readColumn?_column h, Option.map_some]
    obtain ⟨word, htext, hword⟩ : ∃ word : List Char,
        (orderEntry ⟨.property p, direction⟩).toList ++ rest = (column p).toList ++ (word ++ rest) ∧
          readDirection? (word ++ rest) = some (direction, rest) := by
      cases direction with
      | ascending => exact ⟨" ASC".toList, by simp [orderEntry], rfl⟩
      | descending => exact ⟨" DESC".toList, by simp [orderEntry], rfl⟩
    rw [readSorting?, htext, hkey]
    simp only [Option.bind_eq_bind, Option.bind_some, hword]
    rfl

/-- The clause of an order is read back. -/
theorem readOrder?_orderClause {order : List Order} (h : ∀ o ∈ order, o.key.Accepted) :
    readOrder? (orderClause order).toList = some order :=
  Order.readClause?_clause (by decide) fun o ho => readSorting?_orderEntry (h o ho)

/-- What a statement shows of its condition; a condition that no node meets is shown as one. -/
def shown : Reduced → Option Condition
  | .always => none
  | .never => some (.presence ⟨"jcr:primaryType"⟩ false)
  | .predicate p => some (p.shown .not)

/-- The type that a statement names has no bracket. -/
theorem ne_bracket_of_checkedType {r : Request} {type : Option String}
    (h : r.checkedType = .ok type) :
    type = r.nodeType ∧ ∀ c ∈ (type.getD anyType).toList, (c != ']') = true := by
  obtain ⟨hsame, hlegal⟩ := Request.checkedType_eq_ok h
  refine ⟨hsame, ?_⟩
  cases type with
  | none => exact List.all_eq_true.mp rfl
  | some name =>
    intro c hc
    exact bne_iff_ne.mpr (Request.ne_of_mem_typeName (hlegal name rfl) hc rfl)

/-- A clause of an order is a place where chains end. -/
theorem boundary_orderClause (order : List Order) :
    Grammar.Boundary (orderClause order).toList ∧ grammar.Ends (orderClause order).toList := by
  rw [orderClause]
  split
  · exact ⟨trivial, lawful.ends_nil⟩
  · rw [String.toList_append]
    refine ⟨rfl, fun k => ?_⟩
    cases k <;> rfl

/-- The clause of a condition is read back. -/
theorem readWhere?_whereClause (tight : Connective) {reduced : Reduced} (hr : reduced.WellFormed)
    {clause : String} (h : whereClause reduced = .ok clause) {rest : List Char}
    (hnone : afterStart? " WHERE ".toList rest = none) (hrest : Grammar.Boundary rest)
    (hends : grammar.Ends rest) :
    readWhere? tight (clause.toList ++ rest) = some (shown reduced, rest) := by
  have hread {s : String} {c : Condition} (hs : grammar.Reads tight s c) :
      readWhere? tight ((" WHERE " ++ s).toList ++ rest) = some (some c, rest) := by
    have htext : (" WHERE " ++ s).toList ++ rest = " WHERE ".toList ++ (s.toList ++ rest) := by simp
    have hfuel : s.toList.length < (s.toList ++ rest).length + 1 := by
      rw [List.length_append]
      omega
    rw [readWhere?, htext, Text.afterStart?_append]
    simp only [hs _ rest hfuel hrest hends, Option.map_some]
  cases reduced with
  | always =>
    cases h
    change readWhere? tight rest = some (none, rest)
    rw [readWhere?, hnone]
  | never =>
    cases h
    have haccepted : Property.Accepted ⟨"jcr:primaryType"⟩ := ⟨"jcr:primaryType", rfl⟩
    exact hread ((isAtom_presence haccepted false).readsUnit tight).reads
  | predicate p =>
    obtain ⟨s, hs, rfl⟩ := Result.map_eq_ok.mp h
    exact hread (reads_condition tight hr hs)

/-- The scope does not make a condition ill-formed. -/
theorem wellFormed_withScope (scope : Option String) {reduced : Reduced} (h : reduced.WellFormed) :
    (withScope scope reduced).WellFormed := by
  have hpair (base : String) {p : Predicate} (hp : p.WellFormed) :
      (Predicate.junction .and [.descendantOf base, p]).WellFormed := by
    refine .junction .and (by simp) fun q hq => ?_
    rcases List.mem_cons.mp hq with rfl | hq
    · exact .descendantOf base
    · obtain rfl := List.mem_singleton.mp hq
      exact hp
  unfold withScope
  split
  · trivial
  · exact h
  · exact .descendantOf _
  · next base parts =>
    obtain _ | _ | _ | _ | _ | _ | ⟨-, hlen, hparts⟩ := h
    refine .junction .and (by simp; omega) fun q hq => ?_
    rcases List.mem_cons.mp hq with rfl | hq
    · exact .descendantOf base
    · exact hparts q hq
  · next base p _ => exact hpair base h

/-- A statement is read back: its type, its condition with the scope, and its order. -/
theorem read?_of_statement (tight : Connective) {r : Request} (hr : r.criterion.reduce.WellFormed)
    (horder : ∀ o ∈ r.order, o.key.Accepted) {text : String} (h : statement r = .ok text) :
    read? tight text = some ⟨r.nodeType.getD anyType,
      shown (withScope r.scope r.criterion.reduce), r.order⟩ := by
  obtain ⟨type, htype, h⟩ := Result.bind_eq_ok.mp h
  obtain ⟨clause, hclause, h⟩ := Result.bind_eq_ok.mp h
  cases h
  obtain ⟨rfl, hplain⟩ := ne_bracket_of_checkedType htype
  obtain ⟨hboundary, hends⟩ := boundary_orderClause r.order
  have hnone : afterStart? " WHERE ".toList (orderClause r.order).toList = none := by
    rw [orderClause]
    split
    · rfl
    · rw [String.toList_append]
      rfl
  have hwhere := readWhere?_whereClause tight (wellFormed_withScope r.scope hr) hclause hnone
    hboundary hends
  have htext : ("SELECT a.* FROM [" ++ r.nodeType.getD anyType ++ "] AS a" ++ clause ++
      orderClause r.order).toList = "SELECT a.* FROM [".toList ++
      ((r.nodeType.getD anyType).toList ++ ("] AS a".toList ++
        (clause.toList ++ (orderClause r.order).toList))) := by simp
  have hclose : ∀ c ∈ ("] AS a".toList ++ (clause.toList ++ (orderClause r.order).toList)).head?,
      (c != ']') = false := by simp
  simp only [read?, htext, Text.afterStart?_append, Option.bind_eq_bind, Option.bind_some,
    Text.takeWhile_append hplain hclose, Text.dropWhile_append hplain hclose, hwhere,
    readOrder?_orderClause horder, String.ofList_toList]
  rfl

/-- A condition below a base path: the path is the first part of a conjunction. -/
def below (base : String) : Option Condition → Condition
  | none => .descendantOf base
  | some (.junction .and parts) => .junction .and (.descendantOf base :: parts)
  | some c => .junction .and [.descendantOf base, c]

/-- The condition that a request asks for. -/
def askedFor (r : Request) : Option Condition :=
  match r.scope with
  | none => shown r.criterion.reduce
  | some base => some (below base (shown r.criterion.reduce))

/-- The scope is shown as the first part of the condition. -/
theorem shown_withScope {r : Request} (h : r.criterion.reduce ≠ .never) :
    shown (withScope r.scope r.criterion.reduce) = askedFor r := by
  rw [askedFor]
  cases r.scope with
  | none =>
    cases hreduce : r.criterion.reduce with
    | always => rfl
    | never => exact absurd hreduce h
    | predicate p => rfl
  | some base =>
    cases hreduce : r.criterion.reduce with
    | always => rfl
    | never => exact absurd hreduce h
    | predicate p =>
      cases p with
      | junction k parts => cases k <;> simp [withScope, shown, below, Predicate.shown]
      | not inner => simp [withScope, shown, below, Predicate.shown]
      | compare | like | contains | presence | descendantOf => rfl

/-- A statement determines what it was written from. For a criterion made by a caller that some
node may meet, under any base path, type and order, the type, the order and the condition are
recovered from the text, whichever connective the reader lets bind tighter. -/
theorem recovers_statement (tight : Connective) {r : Request} (hbuilt : r.criterion.Built)
    (hnever : r.criterion.reduce ≠ .never) (horder : ∀ o ∈ r.order, o.key.Accepted) {text : String}
    (h : statement r = .ok text) :
    read? tight text = some ⟨r.nodeType.getD "nt:base", askedFor r, r.order⟩ := by
  rw [read?_of_statement tight hbuilt.wellFormed_reduce horder h, shown_withScope hnever]
  rfl

/-- A request with quotes in its texts and path, and junctions of both kinds below a negation. -/
def sample : Request where
  criterion := .junction .and [
    .not (.junction .or [.patternMatch ⟨"jcr:title"⟩ "50%' OR '" .start,
      .junction .and [.containment .node "it's", .comparison ⟨"x"⟩ .ne (.long (-7))]]),
    .range ⟨"price"⟩ (.double ⟨0x3FE0000000000000⟩) (.long 12),
    .comparison ⟨"at"⟩ .lt (.date ⟨1483228799, 1500000000⟩)]
  basePath := some "/it's/AND (b)"
  nodeType := some "cq:Page"
  order := [⟨.property ⟨"jcr:created"⟩, .descending⟩, ⟨.score, .ascending⟩]

/-- The criterion of the sample is made with the checked constructors. -/
theorem built_sample : sample.criterion.Built := by
  have haccepted (name : String) (h : Property.ofName name = .ok ⟨name⟩) :
      Property.Accepted ⟨name⟩ := ⟨name, h⟩
  have hmoment : Value.InRange (.date ⟨1483228799, 1500000000⟩) := ⟨by decide, by decide⟩
  refine .junction .and fun c hc => ?_
  simp only [List.mem_cons, List.not_mem_nil, or_false] at hc
  rcases hc with rfl | rfl | rfl
  · refine .not (.junction .or fun c hc => ?_)
    simp only [List.mem_cons, List.not_mem_nil, or_false] at hc
    rcases hc with rfl | rfl
    · exact .patternMatch (haccepted "jcr:title" rfl) rfl
    · refine .junction .and fun c hc => ?_
      simp only [List.mem_cons, List.not_mem_nil, or_false] at hc
      rcases hc with rfl | rfl
      · exact .containment "it's" ⟨".", rfl⟩
      · exact .comparison (v := .long (-7)) (haccepted "x" rfl) trivial rfl
  · exact .range (l := .double ⟨0x3FE0000000000000⟩) (u := .long 12) (haccepted "price" rfl)
      trivial trivial rfl
  · exact .comparison (haccepted "at" rfl) hmoment rfl

/-- The sample has a statement, and that is read back. -/
theorem recovers_sample : ∃ text, statement sample = .ok text ∧
    read? .or text = some ⟨"cq:Page", askedFor sample, sample.order⟩ := by
  obtain ⟨text, htext⟩ : ∃ text, statement sample = .ok text := ⟨_, rfl⟩
  have hnever : sample.criterion.reduce ≠ .never := nofun
  have horder : ∀ o ∈ sample.order, o.key.Accepted := by
    intro o ho
    simp only [sample, List.mem_cons, List.not_mem_nil, or_false] at ho
    rcases ho with rfl | rfl
    · exact ⟨"jcr:created", rfl⟩
    · trivial
  exact ⟨text, htext, recovers_statement .or built_sample hnever horder htext⟩

end Sql2

end ContentQuery
