import ContentQuery.Criterion.Restriction
import ContentQuery.Json.Value

/-!
# Criteria in documents

A criterion is an object whose member `kind` says which other members it has. It is read as a whole
before anything is made of it; then its fields are taken in the order of the text, and at last the
checked constructor of its kind is applied. So no document is read as a criterion that could not
have been built.
-/

namespace ContentQuery

namespace Json

mutual

/-- Whether a document can be read as a whole: nothing in it is broken, unreadable or out of range,
and it is nested no deeper than there is room. -/
def isSound : Nat → Json → Bool
  | _, broken => false
  | _, text s => s.isSome
  | _, number digits => ((numberParts? digits).bind NumberParts.double?).isSome
  | 0, array _ => false
  | room + 1, array items => areSound room items
  | 0, object _ => false
  | room + 1, object members => haveSound room members
  | _, _ => true

/-- Whether all items can be read as a whole. -/
def areSound (room : Nat) : List Json → Bool
  | [] => true
  | item :: rest => isSound room item && areSound room rest

/-- Whether all members can be read as a whole. -/
def haveSound (room : Nat) : List (Option String × Json) → Bool
  | [] => true
  | (key, value) :: rest => key.isSome && isSound room value && haveSound room rest

end

/-- How many arrays and objects may be nested. -/
def maxDepth : Nat := 127

end Json

namespace Property

/-- The property as a document. -/
def toJson (p : Property) : Json := .ofString p.describe

/-- The property that a document is. -/
def ofJson (j : Json) : Read Property := do
  let name ← j.asString
  Read.ofResult (ofName name)

end Property

namespace Comparator

/-- The names of comparisons. -/
def names : List (String × Comparator) :=
  [("eq", eq), ("ne", ne), ("lt", lt), ("le", le), ("gt", gt), ("ge", ge)]

/-- The name of a comparison. -/
def name : Comparator → String
  | eq => "eq"
  | ne => "ne"
  | lt => "lt"
  | le => "le"
  | gt => "gt"
  | ge => "ge"

end Comparator

namespace Connective

/-- The names of connectives. -/
def names : List (String × Connective) := [("and", and), ("or", or)]

/-- The name of a connective. -/
def name : Connective → String
  | and => "and"
  | or => "or"

end Connective

namespace MatchMode

/-- The names of match modes in documents. -/
def keys : List (String × MatchMode) :=
  [("exact", exact), ("start", start), ("end", finish), ("anywhere", anywhere)]

/-- The name of a match mode in documents. -/
def key : MatchMode → String
  | exact => "exact"
  | start => "start"
  | finish => "end"
  | anywhere => "anywhere"

end MatchMode

namespace Criterion

mutual

/-- The criterion as a document. -/
def toJson : Criterion → Json
  | comparison p op v =>
    .record [("kind", .ofString "comparison"), ("property", p.toJson), ("op", .ofString op.name),
      ("value", v.toJson)]
  | range p l u =>
    .record [("kind", .ofString "range"), ("property", p.toJson), ("lower", l.toJson),
      ("upper", u.toJson)]
  | patternMatch p s mode =>
    .record [("kind", .ofString "pattern_match"), ("property", p.toJson), ("value", .ofString s),
      ("match_mode", .ofString mode.key)]
  | presence p present =>
    .record [("kind", .ofString "null_check"), ("property", p.toJson),
      ("not_null", .boolean present)]
  | anyOf p texts =>
    .record [("kind", .ofString "set_membership"), ("property", p.toJson),
      ("values", .array (texts.map Json.ofString))]
  | containment p s =>
    .record [("kind", .ofString "containment"), ("property", p.toJson), ("value", .ofString s)]
  | descendantOf path => .record [("kind", .ofString "descendant_of"), ("path", .ofString path)]
  | not inner => .record [("kind", .ofString "not"), ("inner", toJson inner)]
  | junction k clauses =>
    .record [("kind", .ofString "junction"), ("connective", .ofString k.name),
      ("clauses", .array (toJsonAll clauses))]

/-- The clauses as documents. -/
def toJsonAll : List Criterion → List Json
  | [] => []
  | c :: rest => toJson c :: toJsonAll rest

end

/-- A part of a document, with what it is as a criterion and as a list of criteria. -/
structure View where
  json : Json
  criterion : Read Criterion
  clauses : Read (List Criterion)

/-- The fields of all kinds of criteria. A kind uses those that it needs. -/
structure Parts where
  property : Property
  op : Comparator
  value : Value
  upper : Value
  text : String
  mode : MatchMode
  present : Bool
  texts : List String
  inner : Criterion
  connective : Connective
  clauses : List Criterion

/-- Fields before anything is read. -/
def Parts.start : Parts :=
  ⟨.node, .eq, .boolean false, .boolean false, "", .exact, false, [], .junction .and [], .and, []⟩

/-- A field that is read from the document itself. -/
def field {α : Type} (name : String) (read : Json → Read α) (put : Parts → α → Parts) :
    Json.Field View Parts :=
  ⟨name, fun view parts => (read view.json).map (put parts)⟩

/-- Whether a document stands for the absent value of a choice. -/
def isAbsent : Json → Bool
  | .null => true
  | .object [] => true
  | _ => false

/-- A choice among names. -/
def asName {α : Type} (choices : List (String × α)) : Json → Read α := Json.asChoice isAbsent choices

/-- The property. -/
def propertyField : Json.Field View Parts :=
  field "property" Property.ofJson fun parts p => { parts with property := p }

/-- The comparison. -/
def opField : Json.Field View Parts :=
  field "op" (asName Comparator.names) fun parts op => { parts with op := op }

/-- The value that is compared with. -/
def valueField : Json.Field View Parts :=
  field "value" Value.ofJson fun parts v => { parts with value := v }

/-- The lower bound. -/
def lowerField : Json.Field View Parts :=
  field "lower" Value.ofJson fun parts v => { parts with value := v }

/-- The upper bound. -/
def upperField : Json.Field View Parts :=
  field "upper" Value.ofJson fun parts v => { parts with upper := v }

/-- The text that is looked for. -/
def textField : Json.Field View Parts :=
  field "value" Json.asString fun parts s => { parts with text := s }

/-- Where the text is looked for. -/
def modeField : Json.Field View Parts :=
  field "match_mode" (asName MatchMode.keys) fun parts mode => { parts with mode := mode }

/-- Whether the property has to be there. -/
def presentField : Json.Field View Parts :=
  field "not_null" Json.asBool fun parts b => { parts with present := b }

/-- The words of which one has to occur. -/
def textsField : Json.Field View Parts :=
  field "values" (Json.asList Json.asString) fun parts texts => { parts with texts := texts }

/-- The path above the node. -/
def pathField : Json.Field View Parts :=
  field "path" Json.asString fun parts s => { parts with text := s }

/-- The criterion that is negated. -/
def innerField : Json.Field View Parts :=
  ⟨"inner", fun view parts => view.criterion.map fun c => { parts with inner := c }⟩

/-- How the clauses are combined. -/
def connectiveField : Json.Field View Parts :=
  field "connective" (asName Connective.names) fun parts k => { parts with connective := k }

/-- The clauses that are combined. -/
def clausesField : Json.Field View Parts :=
  ⟨"clauses", fun view parts => view.clauses.map fun cs => { parts with clauses := cs }⟩

/-- A kind of criterion: its fields, those it cannot do without, and what is made of them. -/
structure Kind where
  name : String
  fields : List (Json.Field View Parts)
  needed : List String
  build : Parts → Result Criterion

/-- The kinds of criteria. -/
def kinds : List Kind :=
  [⟨"comparison", [propertyField, opField, valueField], ["property", "op", "value"],
      fun parts => ofComparison parts.property parts.op parts.value⟩,
    ⟨"range", [propertyField, lowerField, upperField], ["property", "lower", "upper"],
      fun parts => ofRange parts.property parts.value parts.upper⟩,
    ⟨"pattern_match", [propertyField, textField, modeField], ["property", "value", "match_mode"],
      fun parts => ofPattern parts.property parts.text parts.mode⟩,
    ⟨"null_check", [propertyField, presentField], ["property", "not_null"],
      fun parts => ofPresence parts.property parts.present⟩,
    ⟨"set_membership", [propertyField, textsField], ["property", "values"],
      fun parts => ofTexts parts.property parts.texts⟩,
    ⟨"containment", [propertyField, textField], ["property", "value"],
      fun parts => .ok (containment parts.property parts.text)⟩,
    ⟨"descendant_of", [pathField], ["path"], fun parts => ofPath parts.text⟩,
    ⟨"not", [innerField], ["inner"], fun parts => .ok (not parts.inner)⟩,
    ⟨"junction", [connectiveField, clausesField], ["connective"],
      fun parts => .ok (junction parts.connective parts.clauses)⟩]

/-- The kind that a document names. Inside another criterion it may also be given by its place. -/
def kindOf (inside : Bool) : Json → Read Kind
  | .text (some name) =>
    match kinds.find? (·.name = name) with
    | some kind => .ok kind
    | none => malformed
  | .number digits =>
    match inside, (Json.numberParts? digits).bind Json.NumberParts.integer? with
    | true, some (.ofNat n) =>
      match kinds[n]? with
      | some kind => .ok kind
      | none => malformed
    | _, _ => malformed
  | _ => malformed

/-- The shape of a kind. -/
def Kind.shape (kind : Kind) : Json.Shape View Parts :=
  ⟨kind.fields, kind.needed, kind.needed, .start⟩

/-- Whether a member is the one that names the kind. -/
def isKind (member : Option String × View) : Bool := member.1 = some "kind"

/-- The criterion of the members of an object. -/
def ofMembers (inside : Bool) (members : List (Option String × View)) : Read Criterion :=
  match members.filter isKind with
  | [(_, tag)] => do
    let kind ← kindOf inside tag.json
    let parts ← kind.shape.ofMembers (fun _ => true) (members.filter (!isKind ·))
    Read.ofResult (kind.build parts)
  | _ => malformed

/-- The criterion of the items of an array: its kind and its fields in order. -/
def ofItems (inside : Bool) : List View → Read Criterion
  | [] => malformed
  | tag :: rest => do
    let kind ← kindOf inside tag.json
    let parts ← kind.shape.ofItems rest
    Read.ofResult (kind.build parts)

mutual

/-- What a document inside a criterion is. -/
def view : Json → View
  | .object members => ⟨.object members, ofMembers true (viewMembers members), malformed⟩
  | .array items =>
    let views := viewItems items
    ⟨.array items, ofItems true views, Json.eachOf View.criterion views⟩
  | other => ⟨other, malformed, malformed⟩

/-- What the items of an array inside a criterion are. -/
def viewItems : List Json → List View
  | [] => []
  | item :: rest => view item :: viewItems rest

/-- What the members of an object inside a criterion are. -/
def viewMembers : List (Option String × Json) → List (Option String × View)
  | [] => []
  | (key, value) :: rest => (key, view value) :: viewMembers rest

end

/-- The criterion that a document is, if it is nested no deeper than there is room. -/
def ofJson (room : Nat) (j : Json) : Read Criterion :=
  if j.isSound room then
    match j with
    | .object members => ofMembers false (viewMembers members)
    | .array items => ofItems false (viewItems items)
    | _ => malformed
  else malformed

end Criterion

end ContentQuery
