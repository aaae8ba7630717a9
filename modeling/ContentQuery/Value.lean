import ContentQuery.Number.Layout
import ContentQuery.Time.Instant

/-!
# Values

What a property holds and what a condition compares it with: texts, 64-bit integers, doubles,
truth values and instants. Values are equal if they are the same; they compare within a family of
types, where integers and doubles are one family and truth values have no order.
-/

namespace ContentQuery

/-- A typed value. -/
inductive Value where
  | text (s : String)
  | long (n : Int64)
  | double (x : Double)
  | boolean (b : Bool)
  | date (t : Instant)
  deriving DecidableEq

namespace Value

/-- The name of the type. -/
def typeName : Value → String
  | text _ => "STRING"
  | long _ => "LONG"
  | double _ => "DOUBLE"
  | boolean _ => "BOOLEAN"
  | date _ => "DATE"

/-- The text of a text. -/
def asText? : Value → Option String
  | text s => some s
  | _ => none

/-- The number of an integer. -/
def asLong? : Value → Option Int64
  | long n => some n
  | _ => none

/-- The number of a double, and the double nearest to an integer. -/
def asDouble? : Value → Option Double
  | double x => some x
  | long n => some (.ofInt n.toInt)
  | _ => none

/-- The truth of a truth value. -/
def asBoolean? : Value → Option Bool
  | boolean b => some b
  | _ => none

/-- The instant of a date. -/
def asDate? : Value → Option Instant
  | date t => some t
  | _ => none

/-- Whether the value is a number. -/
def isNumeric : Value → Bool
  | long _ => true
  | double _ => true
  | _ => false

/-- Compares two values of one family; an integer meets a double as the double nearest to it. -/
def compare : Value → Value → Option Ordering
  | text s, text t => some (Ord.compare s t)
  | long m, long n => some (Ord.compare m.toInt n.toInt)
  | date s, date t => some (s.compare t)
  | boolean a, boolean b => if a = b then some .eq else none
  | double x, double y => x.compare y
  | long m, double y => (Double.ofInt m.toInt).compare y
  | double x, long n => x.compare (.ofInt n.toInt)
  | _, _ => none

/-- The text in which a value is searched. -/
def lexical : Value → String
  | text s => s
  | long n => toString n.toInt
  | double x => x.toText
  | boolean b => if b then "true" else "false"
  | date t => t.write .millis

/-- The value as descriptions show it: texts stand between single quotes. -/
def describe : Value → String
  | text s => "'" ++ s ++ "'"
  | other => other.lexical

end Value

end ContentQuery
