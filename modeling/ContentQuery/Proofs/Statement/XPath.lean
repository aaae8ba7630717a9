import ContentQuery.Proofs.Statement.Condition
import ContentQuery.Proofs.Statement.EncodedName
import ContentQuery.Proofs.Statement.Scope

/-!
# Reading location paths

The filter of a location path stands in its only brackets, and is read by a grammar in which names
end at blanks, commas and closing signs. What is read is the filter that was left after the scope
was chosen; scope and filter together ask for the nodes that the request asks for.
-/

namespace ContentQuery

namespace XPath

open Text (afterStart?)

/-- Whether a name ends before a character. -/
def endsName (c : Char) : Bool := c = ' ' || c = ',' || c = ')' || c = ']'

/-- Reads a property, or the node itself. -/
def readProperty? : List Char → Option (Property × List Char)
  | '.' :: rest => some (.node, rest)
  | '@' :: rest =>
    some (⟨String.ofList (rest.takeWhile (!endsName ·))⟩, rest.dropWhile (!endsName ·))
  | _ => none

/-- Reads an operand. -/
def readOperand? (s : List Char) : Option (Value × List Char) :=
  match s with
  | '\x27' :: _ => (Literal.readText? s).map fun (t, rest) => (.text t, rest)
  | _ =>
    match afterStart? "true()".toList s, afterStart? "false()".toList s,
      afterStart? "xs:dateTime(".toList s with
    | some rest, _, _ => some (.boolean true, rest)
    | _, some rest, _ => some (.boolean false, rest)
    | _, _, some rest => do
      let (t, rest) ← Literal.readText? rest
      let rest ← afterStart? [')'] rest
      let moment ← Instant.ofText? t
      return (.date moment, rest)
    | none, none, none => Literal.readNumber? s

/-- Reads the arguments of a function: a property and a text, up to the closing parenthesis. -/
def readArguments? (s : List Char) : Option (Property × String × List Char) := do
  let (p, rest) ← readProperty? s
  let rest ← afterStart? ", ".toList rest
  let (t, rest) ← Literal.readText? rest
  let rest ← afterStart? [')'] rest
  return (p, t, rest)

/-- Reads a condition without connectives. A property alone asks for its presence. -/
def readAtom? (s : List Char) : Option (Condition × List Char) :=
  match afterStart? "jcr:like(".toList s, afterStart? "jcr:contains(".toList s with
  | some rest, _ => (readArguments? rest).map fun (p, t, rest) => (.like p t, rest)
  | _, some rest => (readArguments? rest).map fun (p, t, rest) => (.contains p t, rest)
  | none, none => do
    let (p, rest) ← readProperty? s
    match Comparator.read? Comparator.symbol rest with
    | none => return (.presence p true, rest)
    | some (op, rest) =>
      let (v, rest) ← readOperand? rest
      return (.compare p op v, rest)

/-- The negation of a condition; that of presence is absence. -/
def negate : Condition → Condition
  | .presence p true => .presence p false
  | c => .not c

/-- The grammar of filters. -/
def grammar : Grammar Condition where
  word := Connective.word
  negation := "not("
  negate := negate
  junction := .junction
  atom := readAtom?

/-- Reads the filter of a statement: the condition in its first brackets, or none if it has no
brackets. -/
def readFilter? (tight : Connective) (text : String) : Option (Option Condition) :=
  match text.toList.dropWhile (· != '[') with
  | [] => some none
  | _ :: s => do
    let (c, rest) ← grammar.read tight (s.length + 1) s
    let _ ← afterStart? [']'] rest
    return some c

/-- The atoms of the grammar. -/
theorem grammar_atom : grammar.atom = readAtom? := rfl

/-- The grammar of filters is lawful. -/
theorem lawful : grammar.Lawful := by
  refine ⟨fun k => ?_, fun k rest => ?_⟩
  · cases k
    · exact ⟨'a', "nd ".toList, rfl, rfl⟩
    · exact ⟨'o', "r ".toList, rfl, rfl⟩
  · cases k <;> rfl

/-- A property is read back where its name ends. -/
theorem readProperty?_describe {p : Property} (h : p.Accepted) {rest : List Char}
    (hrest : ∀ c ∈ rest.head?, endsName c = true) :
    readProperty? (p.describe.toList ++ rest) = some (p, rest) := by
  obtain ⟨name⟩ := p
  rw [Property.describe]
  split
  · next hnode =>
    obtain rfl : name = "." := by simpa [Property.isNode] using hnode
    rfl
  · have hlegal : ∀ c ∈ name.toList, (!endsName c) = true := by
      intro c hc
      have hplain := h.plain.2 c hc
      cases hends : endsName c with
      | false => rfl
      | true =>
        simp only [endsName, Bool.or_eq_true, decide_eq_true_eq] at hends
        rcases hends with ((rfl | rfl) | rfl) | rfl <;> cases hplain
    have hclose : ∀ c ∈ rest.head?, (!endsName c) = false := by simpa using hrest
    have htext : ("@" ++ name).toList ++ rest = '@' :: (name.toList ++ rest) := by simp
    simp only [htext, readProperty?, Text.takeWhile_append hlegal hclose,
      Text.dropWhile_append hlegal hclose, String.ofList_toList]

/-- The sign of a comparison is read back. -/
theorem read?_symbol (op : Comparator) (rest : List Char) :
    Comparator.read? Comparator.symbol (' ' :: op.symbol.toList ++ [' '] ++ rest) =
      some (op, rest) := by
  cases op <;> rfl

/-- There is no sign of a comparison in what may stand behind a unit. -/
theorem read?_boundary {rest : List Char} (h : Grammar.Boundary rest) :
    Comparator.read? Comparator.symbol rest = none := by
  unfold Grammar.Boundary at h
  split at h
  · rfl
  · next c more =>
    have hne (d : Char) (hd : d.isAlpha = false) : d ≠ c := (Text.ne_of_kind h hd).symm
    simp [Comparator.read?, afterStart?, Comparator.symbol, hne '=' rfl, hne '!' rfl, hne '<' rfl,
      hne '>' rfl]
  · rcases h with rfl | rfl <;> rfl

/-- A text is read at a quote. -/
theorem readOperand?_quote (s : List Char) : readOperand? ('\x27' :: s) =
    (Literal.readText? ('\x27' :: s)).map fun (t, rest) => (.text t, rest) := rfl

/-- A number is read as one. -/
theorem readOperand?_number {s : List Char} (h : Literal.IsNumber s) (rest : List Char) :
    readOperand? (s ++ rest) = Literal.readNumber? (s ++ rest) := by
  obtain ⟨c, more, hcons, hc⟩ := h.exists_cons rest
  have hne (d : Char) (hd : Double.isNumberChar d = false) : d ≠ c :=
    (Text.ne_of_kind hc hd).symm
  have htrue : afterStart? "true()".toList (c :: more) = none := if_neg (hne 't' rfl)
  have hfalse : afterStart? "false()".toList (c :: more) = none := if_neg (hne 'f' rfl)
  have hdate : afterStart? "xs:dateTime(".toList (c :: more) = none := if_neg (hne 'x' rfl)
  rw [hcons]
  unfold readOperand?
  split
  · next heq => exact absurd (List.cons.inj heq).1.symm (hne '\x27' rfl)
  · rw [htrue, hfalse, hdate]

/-- An operand is read back as statements show it. -/
theorem readOperand?_operand {v : Value} (hv : v.InRange) {s : String} (h : operand v = .ok s)
    {rest : List Char} (hrest : Grammar.Boundary rest) :
    readOperand? (s.toList ++ rest) = some (v.shown, rest) := by
  cases v with
  | text t =>
    cases h
    exact (Literal.IsShared.text t).read_append readOperand?_quote readOperand?_number hrest
  | long n =>
    cases h
    exact (Literal.IsShared.long n).read_append readOperand?_quote readOperand?_number hrest
  | double x =>
    exact (Literal.IsShared.double h).read_append readOperand?_quote readOperand?_number hrest
  | boolean b =>
    cases h
    cases b <;> rfl
  | date t =>
    cases h
    have hread : Literal.readText? ('\x27' :: ((t.write .millis).toList ++
        '\x27' :: (')' :: rest))) = some (t.write .millis, ')' :: rest) := by
      rw [Literal.readText?_plain t.quote_not_mem_write (by simp), String.ofList_toList]
    have htext : ("xs:dateTime('" ++ t.write .millis ++ "')").toList ++ rest =
        "xs:dateTime(".toList ++ ('\x27' :: ((t.write .millis).toList ++
          '\x27' :: (')' :: rest))) := by simp
    have htrue (more : List Char) :
        afterStart? "true()".toList ("xs:dateTime(".toList ++ more) = none := rfl
    have hfalse (more : List Char) :
        afterStart? "false()".toList ("xs:dateTime(".toList ++ more) = none := rfl
    have hclose : afterStart? [')'] (')' :: rest) = some rest := rfl
    rw [htext]
    unfold readOperand?
    split
    · next heq => cases heq
    · rw [htrue, hfalse, Text.afterStart?_append]
      simp only [hread, Option.bind_eq_bind, Option.bind_some, hclose, Instant.ofText?_write hv]
      rfl

/-- What may stand behind a unit ends a name. -/
theorem endsName_of_boundary {rest : List Char} (h : Grammar.Boundary rest) :
    ∀ c ∈ rest.head?, endsName c = true := by
  intro c hc
  rcases h.head c hc with rfl | rfl | rfl <;> rfl

/-- What begins with a property begins with the sign of an attribute or of the node. -/
theorem describe_starts (p : Property) (s : List Char) :
    ∃ c more, p.describe.toList ++ s = c :: more ∧ (c = '.' ∨ c = '@') := by
  rw [Property.describe]
  split
  · exact ⟨_, _, rfl, .inl rfl⟩
  · exact ⟨'@', p.name.toList ++ s, by simp, .inr rfl⟩

/-- A property with a test or without one is an atom if it is read back as one. -/
theorem isAtom_test {p : Property} {test : String} {c : Condition}
    (h : ∀ rest, Grammar.Boundary rest →
      (do
        let (p, rest) ← readProperty? (p.describe.toList ++ (test.toList ++ rest))
        match Comparator.read? Comparator.symbol rest with
        | none => return (.presence p true, rest)
        | some (op, rest) =>
          let (v, rest) ← readOperand? rest
          return (.compare p op v, rest)) = some (c, rest)) :
    grammar.IsAtom (p.describe ++ test) c := by
  have htext (rest : List Char) : (p.describe ++ test).toList ++ rest =
      p.describe.toList ++ (test.toList ++ rest) := by simp
  refine ⟨fun rest => ?_, fun rest hrest => ?_⟩
  · obtain ⟨c, more, hmore, hc⟩ := describe_starts p (test.toList ++ rest)
    rw [htext, hmore]
    rcases hc with rfl | rfl <;> exact ⟨rfl, by simp⟩
  · have hnone : afterStart? "jcr:like(".toList (p.describe.toList ++ (test.toList ++ rest)) = none ∧
        afterStart? "jcr:contains(".toList (p.describe.toList ++ (test.toList ++ rest)) = none := by
      obtain ⟨c, more, hmore, hc⟩ := describe_starts p (test.toList ++ rest)
      rw [hmore]
      rcases hc with rfl | rfl <;> exact ⟨rfl, rfl⟩
    rw [grammar_atom]
    unfold readAtom?
    rw [htext, hnone.1, hnone.2]
    exact h rest hrest

/-- A comparison is an atom. -/
theorem isAtom_compare {p : Property} (hp : p.Accepted) (op : Comparator) {v : Value}
    (hv : v.InRange) {s : String} (h : operand v = .ok s) :
    grammar.IsAtom (p.describe ++ " " ++ op.symbol ++ " " ++ s) (.compare p op v.shown) := by
  have htext : p.describe ++ " " ++ op.symbol ++ " " ++ s =
      p.describe ++ (" " ++ op.symbol ++ " " ++ s) := by simp only [String.append_assoc]
  rw [htext]
  apply isAtom_test
  intro rest hrest
  have hsplit : (" " ++ op.symbol ++ " " ++ s).toList ++ rest =
      ' ' :: op.symbol.toList ++ [' '] ++ (s.toList ++ rest) := by simp
  have hblank : ∀ c ∈ (' ' :: op.symbol.toList ++ [' '] ++ (s.toList ++ rest)).head?,
      endsName c = true := by simp [endsName]
  rw [hsplit, readProperty?_describe hp hblank]
  simp only [Option.bind_eq_bind, Option.bind_some, read?_symbol,
    readOperand?_operand hv h hrest]
  rfl

/-- A property alone is an atom, which asks for its presence. -/
theorem isAtom_present {p : Property} (hp : p.Accepted) :
    grammar.IsAtom p.describe (.presence p true) := by
  have htext : p.describe = p.describe ++ "" := by simp
  rw [htext]
  apply isAtom_test
  intro rest hrest
  have hempty : "".toList ++ rest = rest := rfl
  rw [hempty, readProperty?_describe hp (endsName_of_boundary hrest)]
  simp only [Option.bind_eq_bind, Option.bind_some, read?_boundary hrest]
  rfl

/-- The arguments of a function are read back. -/
theorem readArguments?_append {p : Property} (hp : p.Accepted) (t : String) (rest : List Char) :
    readArguments? (p.describe.toList ++ (", ".toList ++ ((Literal.text t).toList ++
      ')' :: rest))) = some (p, t, rest) := by
  have hcomma : ∀ c ∈ (", ".toList ++ ((Literal.text t).toList ++ ')' :: rest)).head?,
      endsName c = true := by simp [endsName]
  have hclose : afterStart? [')'] (')' :: rest) = some rest := rfl
  rw [readArguments?, readProperty?_describe hp hcomma]
  simp only [Option.bind_eq_bind, Option.bind_some, Text.afterStart?_append,
    Literal.readText?_text t (by simp : (')' :: rest).head? ≠ some '\x27'), hclose]
  rfl

/-- A match with a pattern is an atom. -/
theorem isAtom_like {p : Property} (hp : p.Accepted) (t : String) :
    grammar.IsAtom ("jcr:like(" ++ p.describe ++ ", " ++ Literal.text t ++ ")") (.like p t) := by
  have htext (rest : List Char) :
      ("jcr:like(" ++ p.describe ++ ", " ++ Literal.text t ++ ")").toList ++ rest =
      "jcr:like(".toList ++ (p.describe.toList ++ (", ".toList ++ ((Literal.text t).toList ++
        ')' :: rest))) := by simp
  refine ⟨fun rest => ?_, fun rest _ => ?_⟩
  · rw [htext]
    exact ⟨rfl, by simp⟩
  · rw [grammar_atom, htext, readAtom?, Text.afterStart?_append]
    simp only [readArguments?_append hp, Option.map_some]

/-- A search for words is an atom. -/
theorem isAtom_contains {p : Property} (hp : p.Accepted) (t : String) :
    grammar.IsAtom ("jcr:contains(" ++ p.describe ++ ", " ++ Literal.text t ++ ")")
      (.contains p t) := by
  have htext (rest : List Char) :
      ("jcr:contains(" ++ p.describe ++ ", " ++ Literal.text t ++ ")").toList ++ rest =
      "jcr:contains(".toList ++ (p.describe.toList ++ (", ".toList ++ ((Literal.text t).toList ++
        ')' :: rest))) := by simp
  have hlike (more : List Char) :
      afterStart? "jcr:like(".toList ("jcr:contains(".toList ++ more) = none := rfl
  refine ⟨fun rest => ?_, fun rest _ => ?_⟩
  · rw [htext]
    exact ⟨rfl, by simp⟩
  · rw [grammar_atom, htext, readAtom?, hlike, Text.afterStart?_append]
    simp only [readArguments?_append hp, Option.map_some]

/-- A text is read as a unit where it is a part of a junction, and as a condition elsewhere. -/
def ReadsAt (tight : Connective) (nested : Bool) (s : String) (c : Condition) : Prop :=
  match nested with
  | true => grammar.ReadsUnit tight s c
  | false => grammar.Reads tight s c

/-- A unit is read in either place. -/
theorem readsAt_of_unit {tight : Connective} {s : String} {c : Condition}
    (h : grammar.ReadsUnit tight s c) (nested : Bool) : ReadsAt tight nested s c := by
  cases nested with
  | true => exact h
  | false => exact h.reads

/-- A filter that is written is read back. -/
theorem reads_filter (tight : Connective) {p : Predicate} (hp : p.WellFormed) (nested : Bool) :
    ∀ {s : String}, filter nested p = .ok s → ReadsAt tight nested s (p.shown negate) := by
  induction hp generalizing nested with
  | compare op hp hv =>
    intro s h
    obtain ⟨right, hright, h⟩ := Result.bind_eq_ok.mp h
    cases h
    exact readsAt_of_unit ((isAtom_compare hp op hv hright).readsUnit tight) nested
  | like pattern hp =>
    intro s h
    cases h
    exact readsAt_of_unit ((isAtom_like hp pattern.write).readsUnit tight) nested
  | contains t hp =>
    intro s h
    cases h
    exact readsAt_of_unit ((isAtom_contains hp t).readsUnit tight) nested
  | @presence p present hp =>
    intro s h
    cases h
    have hatom := (isAtom_present hp).readsUnit tight
    cases present with
    | true => exact readsAt_of_unit hatom nested
    | false => exact readsAt_of_unit (hatom.reads.negated lawful) nested
  | descendantOf path =>
    intro s h
    cases h
  | not _ ih =>
    intro s h
    obtain ⟨inner, hinner, h⟩ := Result.bind_eq_ok.mp h
    cases h
    have hread : grammar.Reads tight inner _ := ih false hinner
    exact readsAt_of_unit (hread.negated lawful) nested
  | @junction k parts hlen _ ih =>
    intro s h
    obtain ⟨texts, htexts, h⟩ := Result.bind_eq_ok.mp h
    cases h
    have hunits : List.Forall₂ (grammar.ReadsUnit tight) texts
        (parts.map (Predicate.shown negate)) :=
      Result.forall₂_of_each (filter true) filters rfl (fun _ _ => rfl) htexts
        fun p hp s hs => ih p hp true hs
    have hjunction := Grammar.reads_junction lawful k hunits (by simpa using hlen)
    rw [Predicate.shown, Predicate.shownAll_eq]
    cases nested with
    | true => exact hjunction.enclosed lawful fun rest => rfl
    | false => exact hjunction

/-- What a statement shows of its filter; a filter that no node passes is shown as one. -/
def shown : Reduced → Option Condition
  | .always => none
  | .never => some (.presence ⟨"jcr:primaryType"⟩ false)
  | .predicate p => some (p.shown negate)

/-- A text without an opening bracket. -/
def NoBracket (s : String) : Prop := s.toList.all (· != '[') = true

/-- A text without a character that is an opening bracket. -/
theorem noBracket_of_forall {s : String} (h : ∀ c ∈ s.toList, c ≠ '[') : NoBracket s :=
  List.all_eq_true.mpr fun c hc => bne_iff_ne.mpr (h c hc)

/-- Texts without brackets may be put together. -/
theorem NoBracket.append {s t : String} (hs : NoBracket s) (ht : NoBracket t) :
    NoBracket (s ++ t) := by
  rw [NoBracket, String.toList_append, List.all_append, Bool.and_eq_true]
  exact ⟨hs, ht⟩

/-- There is no bracket in the steps down to a scope. -/
theorem noBracket_scopeSteps (scope : Option String) : NoBracket (scopeSteps scope) := by
  cases scope with
  | none => rfl
  | some path =>
    have hroot : NoBracket "/jcr:root" := rfl
    have hend : NoBracket "//" := rfl
    have hpath : NoBracket (EncodedName.encodePath path) := by
      apply noBracket_of_forall
      intro c hc heq
      subst heq
      rcases EncodedName.mem_encodePath hc with h | h <;> cases h
    exact (hroot.append hpath).append hend

/-- There is no bracket in the test for a legal type. -/
theorem noBracket_typeTest {r : Request} {type : Option String} (h : r.checkedType = .ok type) :
    NoBracket (typeTest type) := by
  obtain ⟨-, hlegal⟩ := Request.checkedType_eq_ok h
  cases type with
  | none => rfl
  | some name =>
    have hopen : NoBracket "element(*, " := rfl
    have hclose : NoBracket ")" := rfl
    have hname : NoBracket name := by
      apply noBracket_of_forall
      intro c hc
      exact Request.ne_of_mem_typeName (hlegal name rfl) hc rfl
    exact (hopen.append hname).append hclose

/-- There is no bracket in texts without brackets that are joined. -/
theorem noBracket_joinWith {texts : List String} (h : ∀ s ∈ texts, NoBracket s) :
    NoBracket (Text.joinWith ", " texts) := by
  have hcomma : NoBracket ", " := rfl
  induction texts with
  | nil =>
    rfl
  | cons s rest ih =>
    have hrest := ih fun t ht => h t (List.mem_cons_of_mem s ht)
    cases rest with
    | nil => exact h s List.mem_cons_self
    | cons t rest => exact ((h s List.mem_cons_self).append hcomma).append hrest

/-- There is no bracket in an accepted property. -/
theorem noBracket_describe {p : Property} (h : p.Accepted) : NoBracket p.describe := by
  have hsign : NoBracket "@" := rfl
  have hname : NoBracket p.name := by
    apply noBracket_of_forall
    intro c hc
    have hne : '[' ≠ c := Text.ne_of_kind rfl (h.plain.2 c hc)
    exact hne.symm
  rw [Property.describe]
  split
  · rfl
  · exact hsign.append hname

/-- There is no bracket in the clause of an order. -/
theorem noBracket_orderClause {order : List Order} (h : ∀ o ∈ order, o.key.Accepted) :
    NoBracket (orderClause order) := by
  rw [orderClause]
  split
  · rfl
  · have hopen : NoBracket " order by " := rfl
    refine hopen.append (noBracket_joinWith fun s hs => ?_)
    obtain ⟨⟨key, direction⟩, ho, rfl⟩ := List.mem_map.mp hs
    have hkey : NoBracket key.describe := by
      cases key with
      | score => rfl
      | property p => exact noBracket_describe (h _ ho)
    have hascending : NoBracket " ascending" := rfl
    have hdescending : NoBracket " descending" := rfl
    cases direction with
    | ascending => exact hkey.append hascending
    | descending => exact hkey.append hdescending

/-- A filter in brackets is read back, in front of any text without brackets, and no filter where
there are no brackets. -/
theorem readFilter?_filterClause (tight : Connective) {reduced : Reduced}
    (hr : reduced.WellFormed) {clause : String} (h : filterClause reduced = .ok clause)
    {start rest : String} (hstart : NoBracket start) (hrest : NoBracket rest) :
    readFilter? tight (start ++ clause ++ rest) = some (shown reduced) := by
  have hread {s : String} {c : Condition} (hs : grammar.Reads tight s c) :
      readFilter? tight (start ++ ("[" ++ s ++ "]") ++ rest) = some (some c) := by
    have htext : (start ++ ("[" ++ s ++ "]") ++ rest).toList =
        start.toList ++ '[' :: (s.toList ++ ']' :: rest.toList) := by simp
    have hopen : ∀ c ∈ ('[' :: (s.toList ++ ']' :: rest.toList)).head?, (c != '[') = false := by
      simp
    have hboundary : Grammar.Boundary (']' :: rest.toList) := by
      unfold Grammar.Boundary
      exact Or.inr rfl
    have hends : grammar.Ends (']' :: rest.toList) := by
      intro k
      cases k <;> rfl
    have hfuel : s.toList.length < (s.toList ++ ']' :: rest.toList).length + 1 := by
      rw [List.length_append]
      omega
    have hclose : afterStart? [']'] (']' :: rest.toList) = some rest.toList := rfl
    rw [readFilter?, htext, Text.dropWhile_append (List.all_eq_true.mp hstart) hopen]
    simp only [hs _ _ hfuel hboundary hends, Option.bind_eq_bind, Option.bind_some, hclose]
    rfl
  cases reduced with
  | always =>
    cases h
    have hall : (start ++ "" ++ rest).toList.dropWhile (· != '[') = [] := by
      rw [List.dropWhile_eq_nil_iff]
      rw [String.append_empty]
      exact List.all_eq_true.mp (hstart.append hrest)
    rw [readFilter?, hall]
    rfl
  | never =>
    cases h
    have haccepted : Property.Accepted ⟨"jcr:primaryType"⟩ := ⟨"jcr:primaryType", rfl⟩
    exact hread (((isAtom_present haccepted).readsUnit tight).reads.negated lawful).reads
  | predicate p =>
    obtain ⟨s, hs, rfl⟩ := Result.map_eq_ok.mp h
    exact hread (reads_filter tight hr false hs)

/-- The filter of a statement is read back. -/
theorem readFilter?_of_statement (tight : Connective) {r : Request}
    (hr : (scopeAndFilter r).2.WellFormed) (horder : ∀ o ∈ r.order, o.key.Accepted) {text : String}
    (h : statement r = .ok text) :
    readFilter? tight text = some (shown (scopeAndFilter r).2) := by
  obtain ⟨type, htype, h⟩ := Result.bind_eq_ok.mp h
  obtain ⟨clause, hclause, h⟩ := Result.bind_eq_ok.mp h
  cases h
  exact readFilter?_filterClause tight hr hclause
    ((noBracket_scopeSteps _).append (noBracket_typeTest htype)) (noBracket_orderClause horder)

/-- A location path is faithful. For a criterion made by a caller that some node may meet, under
any base path, type and order, the filter that was left after the scope was chosen is recovered
from the text, whichever connective the reader lets bind tighter; and the nodes below the scope
that pass the filter are the nodes below the base path that meet the criterion. -/
theorem faithful_statement (tight : Connective) {r : Request} (hbuilt : r.criterion.Built)
    (hnever : r.criterion.reduce ≠ .never) (horder : ∀ o ∈ r.order, o.key.Accepted) {text : String}
    (h : statement r = .ok text) :
    (∀ n : Node, (n.isWithin (scopeAndFilter r).1 = true ∧ (scopeAndFilter r).2.holds n = true) ↔
      (∀ base ∈ r.basePath, base ≠ "/" → Path.isBelow n.path base = true) ∧
        r.criterion.reduce.holds n = true) ∧
    readFilter? tight text = some (shown (scopeAndFilter r).2) ∧
    (scopeAndFilter r).2 ≠ .never :=
  ⟨within_and_holds_iff r,
    readFilter?_of_statement tight (wellFormed_filter hbuilt.wellFormed_reduce) horder h,
    filter_ne_never hnever⟩

/-- A request for what lies below a path, with a disjunction below a negation. -/
def sample : Request where
  criterion := .junction .and [
    .descendantOf "/content/a[1]",
    .not (.junction .or [.presence ⟨"jcr:title"⟩ false,
      .junction .and [.containment .node "it's]", .comparison ⟨"x"⟩ .gt (.long (-7))]]),
    .not (.presence ⟨"hidden"⟩ true)]
  basePath := some "/"
  nodeType := some "cq:Page"
  order := [⟨.property ⟨"jcr:created"⟩, .descending⟩]

/-- The criterion of the sample is made with the checked constructors. -/
theorem built_sample : sample.criterion.Built := by
  have haccepted (name : String) (h : Property.ofName name = .ok ⟨name⟩) :
      Property.Accepted ⟨name⟩ := ⟨name, h⟩
  refine .junction .and fun c hc => ?_
  simp only [List.mem_cons, List.not_mem_nil, or_false] at hc
  rcases hc with rfl | rfl | rfl
  · have hpath : Criterion.ofPath "/content/a[1]" = .ok (.descendantOf "/content/a[1]") := rfl
    exact .descendantOf hpath
  · refine .not (.junction .or fun c hc => ?_)
    simp only [List.mem_cons, List.not_mem_nil, or_false] at hc
    rcases hc with rfl | rfl
    · exact .presence (haccepted "jcr:title" rfl) rfl
    · refine .junction .and fun c hc => ?_
      simp only [List.mem_cons, List.not_mem_nil, or_false] at hc
      rcases hc with rfl | rfl
      · exact .containment "it's]" ⟨".", rfl⟩
      · exact .comparison (v := .long (-7)) (haccepted "x" rfl) trivial rfl
  · exact .not (.presence (haccepted "hidden" rfl) rfl)

/-- The sample has a statement, whose scope is the path of its criterion. -/
theorem faithful_sample : ∃ text, statement sample = .ok text ∧
    (scopeAndFilter sample).1 = some "/content/a[1]" ∧
    readFilter? .and text = some (shown (scopeAndFilter sample).2) ∧
    ∀ n : Node, (n.isWithin (scopeAndFilter sample).1 = true ∧
      (scopeAndFilter sample).2.holds n = true) ↔ sample.criterion.reduce.holds n = true := by
  obtain ⟨text, htext⟩ : ∃ text, statement sample = .ok text := ⟨_, rfl⟩
  have hnever : sample.criterion.reduce ≠ .never := nofun
  have horder : ∀ o ∈ sample.order, o.key.Accepted := by
    intro o ho
    obtain rfl := List.mem_singleton.mp ho
    exact ⟨"jcr:created", rfl⟩
  obtain ⟨hnodes, hread, -⟩ := faithful_statement .and built_sample hnever horder htext
  refine ⟨text, htext, rfl, hread, fun n => ?_⟩
  rw [hnodes n]
  simp [sample]

end XPath

end ContentQuery
