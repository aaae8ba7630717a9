import ContentQuery.Criterion.Reduction
import ContentQuery.Repository.Node
import ContentQuery.Text.Case
import ContentQuery.Text.Letter
import ContentQuery.Text.Numeral

/-!
# Prepared conditions

A store that tests one condition on many nodes prepares it first: the words of searched texts are
taken apart, paths get the slash that names below them begin with, and patterns become regular
expressions. The engine for these is not part of the library. It may refuse a source, and then
nothing is prepared.

A comparison with an absent property does not hold, whatever its sign. Containment is by words:
every word of the searched text has to be among those of the property, in upper or lower case, and a
text without words is contained nowhere.
-/

namespace ContentQuery

namespace Text

/-- Whether a character can be part of a word. -/
def isWordChar (c : Char) : Bool := isLetter c || isNumeral c || c = '_'

/-- The words of a text in lower case. -/
def words (s : List Char) : List (List Char) :=
  ((pieces (fun c => !isWordChar c) s).filter (!·.isEmpty)).map lowercase

end Text

/-- Whether a stored value compares with an operand. Truth values can only be equal or not. -/
def Comparator.holds (op : Comparator) (stored operand : Value) : Bool :=
  match stored, operand with
  | .boolean a, .boolean b =>
    match op with
    | .eq => a = b
    | .ne => a ≠ b
    | _ => false
  | a, b =>
    match a.compare b with
    | some o => op.accepts o
    | none => false

namespace Node

/-- The words of a value. -/
def wordsOf (v : Value) : List (List Char) := Text.words v.lexical.toList

/-- Whether a property has a value with a trait. -/
def hasValue (n : Node) (p : Property) (trait : Value → Bool) : Bool :=
  match n.property? p.name with
  | some v => trait v
  | none => false

end Node

/-- An engine for regular expressions. -/
structure ExpressionEngine where
  /-- A compiled expression. -/
  Compiled : Type
  /-- The source of an expression for a text alone. -/
  escape : String → String
  /-- Compiles a source, or says what is wrong with it. -/
  compile : String → Except String Compiled
  /-- Whether an expression is found in a text. -/
  accepts : Compiled → String → Bool

namespace Pattern

/-- The source of the regular expression for a pattern. -/
def source (escape : String → String) (p : Pattern) : String :=
  "(?s)^" ++ (if p.openStart then ".*" else "") ++ escape p.literal ++
    (if p.openEnd then ".*" else "") ++ "$"

/-- The regular expression for a pattern. -/
def expression (engine : ExpressionEngine) (p : Pattern) : Result engine.Compiled :=
  match engine.compile (p.source engine.escape) with
  | .ok compiled => .ok compiled
  | .error why => .error (.internal ("LIKE pattern " ++ p.write ++ ": " ++ why))

end Pattern

/-- A condition that is prepared for many nodes. -/
inductive Matcher (engine : ExpressionEngine) where
  /-- Every node meets the condition. -/
  | always
  /-- No node meets the condition. -/
  | never
  /-- The property compares with the value. -/
  | compare (property : Property) (op : Comparator) (value : Value)
  /-- The expression is found in the property. -/
  | like (property : Property) (expression : engine.Compiled)
  /-- The property, or the node itself, contains all words. -/
  | contains (property : Property) (terms : List (List Char))
  /-- The property is present or absent. -/
  | presence (property : Property) (present : Bool)
  /-- The path of the node begins with a text. -/
  | descendantOf (start : String)
  /-- The condition does not hold. -/
  | not (inner : Matcher engine)
  /-- A combination of parts. -/
  | junction (connective : Connective) (parts : List (Matcher engine))

namespace Matcher

variable {engine : ExpressionEngine}

mutual

/-- Prepares a predicate. -/
def ofPredicate (engine : ExpressionEngine) : Predicate → Result (Matcher engine)
  | .compare p op v => .ok (compare p op v)
  | .like p pattern => do
    let expression ← pattern.expression engine
    return like p expression
  | .contains p s => .ok (contains p (Text.words s.toList))
  | .presence p present => .ok (presence p present)
  | .descendantOf path => .ok (descendantOf (path ++ "/"))
  | .not inner => do
    let prepared ← ofPredicate engine inner
    return not prepared
  | .junction k parts => do
    let prepared ← ofPredicates engine parts
    return junction k prepared

/-- Prepares predicates in order, up to the first that is refused. -/
def ofPredicates (engine : ExpressionEngine) : List Predicate → Result (List (Matcher engine))
  | [] => .ok []
  | p :: rest => do
    let prepared ← ofPredicate engine p
    let others ← ofPredicates engine rest
    return prepared :: others

end

/-- Prepares what remains of a condition. -/
def ofReduced (engine : ExpressionEngine) : Reduced → Result (Matcher engine)
  | .always => .ok always
  | .never => .ok never
  | .predicate p => ofPredicate engine p

/-- The words that a property is searched in, if there is anything to search. -/
def wordsIn? (n : Node) (p : Property) : Option (List (List Char)) :=
  if p.isNode then some (n.entry.properties.flatMap fun entry => Node.wordsOf entry.2)
  else (n.property? p.name).map Node.wordsOf

mutual

/-- Whether a node meets a prepared condition. -/
def accepts (n : Node) : Matcher engine → Bool
  | always => true
  | never => false
  | compare p op v => n.hasValue p (op.holds · v)
  | like p expression => n.hasValue p fun v => engine.accepts expression v.lexical
  | contains p terms =>
    if terms.isEmpty then false
    else match wordsIn? n p with
      | some found => terms.all found.contains
      | none => false
  | presence p present => (n.property? p.name).isSome = present
  | descendantOf start => start.toList.isPrefixOf n.path.toList
  | not inner => !accepts n inner
  | junction .and parts => acceptsAll n parts
  | junction .or parts => acceptsAny n parts

/-- Whether a node meets all prepared conditions. -/
def acceptsAll (n : Node) : List (Matcher engine) → Bool
  | [] => true
  | m :: rest => accepts n m && acceptsAll n rest

/-- Whether a node meets some prepared condition. -/
def acceptsAny (n : Node) : List (Matcher engine) → Bool
  | [] => false
  | m :: rest => accepts n m || acceptsAny n rest

end

end Matcher

end ContentQuery
