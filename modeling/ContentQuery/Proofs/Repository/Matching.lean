import ContentQuery.Repository.Matcher

/-!
# Meeting a condition

Whether a node meets a condition, said of the condition as it is and without preparing it. A pattern
is tested on a text by the place of its literal, and the words that a property is searched in are
there in one list.
-/

namespace ContentQuery

/-- Whether the first text begins at some place of the second. -/
def Text.occurs (part : List Char) : List Char → Bool
  | [] => part.isEmpty
  | c :: rest => part.isPrefixOf (c :: rest) || occurs part rest

/-- Whether a text matches a pattern. -/
def Pattern.accepts (p : Pattern) (s : List Char) : Bool :=
  let literal := p.literal.toList
  match p.openStart, p.openEnd with
  | false, false => s = literal
  | false, true => literal.isPrefixOf s
  | true, false => literal.isSuffixOf s
  | true, true => Text.occurs literal s

namespace Node

/-- The words that a property is searched in; the node itself has those of all its properties. -/
def searchable (n : Node) (p : Property) : List (List Char) :=
  if p.isNode then n.entry.properties.flatMap fun entry => wordsOf entry.2
  else match n.property? p.name with
    | some v => wordsOf v
    | none => []

/-- Whether a property contains all words of a text, of which there has to be one. -/
def contains (n : Node) (p : Property) (text : String) : Bool :=
  let wanted := Text.words text.toList
  !wanted.isEmpty && wanted.all (n.searchable p).contains

end Node

namespace Predicate

mutual

/-- Whether a node meets a predicate. -/
def holds (n : Node) : Predicate → Bool
  | compare p op v => n.hasValue p (op.holds · v)
  | like p pattern => n.hasValue p fun v => pattern.accepts v.lexical.toList
  | contains p s => n.contains p s
  | presence p present => (n.property? p.name).isSome = present
  | descendantOf path => Path.isBelow n.path path
  | not inner => !holds n inner
  | junction .and parts => holdsAll n parts
  | junction .or parts => holdsAny n parts

/-- Whether a node meets all predicates. -/
def holdsAll (n : Node) : List Predicate → Bool
  | [] => true
  | p :: rest => holds n p && holdsAll n rest

/-- Whether a node meets some predicate. -/
def holdsAny (n : Node) : List Predicate → Bool
  | [] => false
  | p :: rest => holds n p || holdsAny n rest

end

end Predicate

/-- Whether a node meets what remains of a condition. -/
def Reduced.holds (n : Node) : Reduced → Bool
  | .always => true
  | .never => false
  | .predicate p => p.holds n

end ContentQuery
