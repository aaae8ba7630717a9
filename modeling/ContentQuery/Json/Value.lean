import ContentQuery.Json.Decode
import ContentQuery.Time.Reader
import ContentQuery.Value

/-!
# Values in documents

A value is an object with one member, whose key is its type. Instants are texts.
-/

namespace ContentQuery

namespace Json

/-- An instant. -/
def asInstant (j : Json) : Read Instant := do
  let s ← j.asString
  match Instant.ofText? s with
  | some t => return t
  | none => malformed

end Json

namespace Value

/-- The value as a document. -/
def toJson : Value → Json
  | text s => .record [("string", .ofString s)]
  | long n => .record [("long", .ofInt n.toInt)]
  | double x => .record [("double", .ofDouble x)]
  | boolean b => .record [("boolean", .boolean b)]
  | date t => .record [("date", .ofString (t.write .exact))]

/-- The value of a type. -/
def ofTyped (type : String) (j : Json) : Read Value :=
  match type with
  | "string" => j.asString.map text
  | "long" => j.asLong.map long
  | "double" => j.asDouble.map double
  | "boolean" => j.asBool.map boolean
  | "date" => j.asInstant.map date
  | _ => malformed

/-- The value that a document is. -/
def ofJson : Json → Read Value
  | .object [(some type, j)] => ofTyped type j
  | _ => malformed

end Value

end ContentQuery
