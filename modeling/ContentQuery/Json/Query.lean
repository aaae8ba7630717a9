import ContentQuery.Json.Criterion
import ContentQuery.Query.Compiler

/-!
# Questions in documents

Languages, orders, configurations, whole questions and descriptors. A question may leave out every
field, and a descriptor only those that may be null. A descriptor is taken as it stands: its
statement, path and limit are not looked into.
-/

namespace ContentQuery

namespace Language

/-- The names of languages in documents. -/
def keys : List (String × Language) :=
  [("xpath", xpath), ("XPATH", xpath), ("sql2", sql2), ("JCR-SQL2", sql2),
    ("unspecified", unspecified)]

/-- The name under which a language is written. -/
def key : Language → String
  | xpath => "xpath"
  | sql2 => "sql2"
  | unspecified => "unspecified"

/-- The language as a document. -/
def toJson (language : Language) : Json := .ofString language.key

/-- The language that a document is. -/
def ofJson : Json → Read Language := Json.asChoice Json.isNull keys

end Language

namespace Direction

/-- The names of directions in documents. -/
def keys : List (String × Direction) :=
  [("ascending", ascending), ("asc", ascending), ("descending", descending), ("desc", descending)]

/-- The name under which a direction is written. -/
def key : Direction → String
  | ascending => "ascending"
  | descending => "descending"

/-- The direction that a document is. -/
def ofJson : Json → Read Direction := Json.asChoice Json.isNull keys

end Direction

namespace SortKey

/-- The sort key that a document is. -/
def ofJson (j : Json) : Read SortKey := do
  let name ← j.asString
  Read.ofResult (ofName name)

end SortKey

namespace Order

/-- The entry as a document. -/
def toJson (o : Order) : Json :=
  .record [("key", .ofString o.key.describe), ("direction", .ofString o.direction.key)]

/-- The shape of an entry; without a direction it ascends. -/
def shape : Json.Shape Json Order :=
  ⟨[⟨"key", fun j o => (SortKey.ofJson j).map fun key => { o with key := key }⟩,
      ⟨"direction", fun j o => (Direction.ofJson j).map fun d => { o with direction := d }⟩],
    ["key"], ["key"], ⟨.score, .ascending⟩⟩

/-- The entry that a document is. -/
def ofJson : Json → Read Order := Json.asRecord shape

/-- The order that a document is. -/
def listOfJson : Json → Read (List Order) := Json.asList ofJson

/-- An order as a document. -/
def listToJson (order : List Order) : Json := .array (order.map toJson)

end Order

namespace Config

/-- The configuration as a document. -/
def toJson (c : Config) : Json :=
  .record [("default_language", c.defaultLanguage.toJson),
    ("query_logging", .boolean c.queryLogging)]

/-- The shape of a configuration. -/
def shape : Json.Shape Json Config :=
  ⟨[⟨"default_language",
        fun j c => (Language.ofJson j).map fun l => { c with defaultLanguage := l }⟩,
      ⟨"query_logging", fun j c => j.asBool.map fun b => { c with queryLogging := b }⟩],
    [], [], standard⟩

/-- The configuration that a document is. -/
def ofJson : Json → Read Config := Json.asRecord shape

end Config

namespace Criteria

/-- A member that is left out without a value. -/
def optional {α : Type} (name : String) (write : α → Json) (value : Option α) :
    List (String × Json) :=
  match value with
  | some a => [(name, write a)]
  | none => []

/-- The question as a document; what is absent is left out. -/
def toJson (c : Criteria) : Json :=
  .record <|
    [("language", c.language.toJson)] ++ optional "base_path" .ofString c.basePath ++
      optional "type" .ofString c.nodeType ++
      [("criteria", .array (c.all.map Criterion.toJson)), ("order", Order.listToJson c.order),
        ("offset", .ofNat c.offset)] ++
      optional "max_results" .ofNat c.maxResults

/-- The shape of a question. Its criteria are nested in the question and in their list. -/
def shape : Json.Shape Json Criteria :=
  ⟨[⟨"language", fun j c => (Language.ofJson j).map c.withLanguage⟩,
      ⟨"base_path", fun j c => j.asOptionalString.map fun s => { c with basePath := s }⟩,
      ⟨"type", fun j c => j.asOptionalString.map fun s => { c with nodeType := s }⟩,
      ⟨"criteria", fun j c =>
        (j.asList (Criterion.ofJson (Json.maxDepth - 2))).map fun all => { c with all := all }⟩,
      ⟨"order", fun j c => (Order.listOfJson j).map fun order => { c with order := order }⟩,
      ⟨"offset", fun j c => j.asCount.map c.skip⟩,
      ⟨"max_results", fun j c => j.asOptionalCount.map fun n => { c with maxResults := n }⟩],
    [], [], empty⟩

/-- The question that a document is. -/
def ofJson : Json → Read Criteria := Json.asRecord shape

end Criteria

namespace Descriptor

/-- The descriptor as a document; what is absent is null. -/
def toJson (d : Descriptor) : Json :=
  .record
    [("requested_language", d.requestedLanguage.toJson), ("language", d.language.toJson),
      ("statement", .ofString d.statement), ("base_path", .ofOption d.basePath),
      ("node_type", .ofOption d.nodeType), ("criterion", d.criterion.toJson),
      ("order", Order.listToJson d.order), ("offset", .ofNat d.offset),
      ("limit", (d.limit.map Json.ofNat).getD .null)]

/-- The names of all fields of a descriptor. -/
def fieldNames : List String :=
  ["requested_language", "language", "statement", "base_path", "node_type", "criterion", "order",
    "offset", "limit"]

/-- The names of the fields that a descriptor cannot do without. -/
def neededNames : List String :=
  ["requested_language", "language", "statement", "criterion", "order", "offset"]

/-- The shape of a descriptor. Its criterion is nested in it. -/
def shape : Json.Shape Json Descriptor :=
  ⟨[⟨"requested_language", fun j d => (Language.ofJson j).map d.withRequestedLanguage⟩,
      ⟨"language", fun j d => (Language.ofJson j).map fun l => { d with language := l }⟩,
      ⟨"statement", fun j d => j.asString.map d.withStatement⟩,
      ⟨"base_path", fun j d => j.asOptionalString.map d.withBasePath⟩,
      ⟨"node_type", fun j d => j.asOptionalString.map d.withNodeType⟩,
      ⟨"criterion", fun j d =>
        (Criterion.ofJson (Json.maxDepth - 1) j).map fun c => { d with criterion := c }⟩,
      ⟨"order", fun j d => (Order.listOfJson j).map d.withOrder⟩,
      ⟨"offset", fun j d => j.asCount.map d.withOffset⟩,
      ⟨"limit", fun j d => j.asOptionalCount.map fun n => { d with limit := n }⟩],
    neededNames, fieldNames, ofLanguage .unspecified⟩

/-- The descriptor that a document is. -/
def ofJson : Json → Read Descriptor := Json.asRecord shape

end Descriptor

end ContentQuery
