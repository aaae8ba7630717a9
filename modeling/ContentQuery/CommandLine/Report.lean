import ContentQuery.CommandLine.Table
import ContentQuery.Execution.Session
import ContentQuery.Json.Query
import ContentQuery.Json.Writer
import ContentQuery.Number.Layout

/-!
# Reports

What the commands find out, as tables and as documents.
-/

namespace ContentQuery

namespace CommandLine

/-- A text and the end of its line. -/
def endLine (s : String) : String := s ++ "\n"

/-- Lines of text. -/
def ofLines (lines : List String) : String := String.join (lines.map endLine)

/-- A document on several lines. -/
def showDocument (j : Json) : String := endLine (j.pretty 0)

/-- A compiled question with the one that counts all matches. -/
structure Explanation where
  query : Descriptor
  count : Descriptor

/-- A page of rows and its place among all pages. -/
structure PageReport where
  statement : String
  rows : List Row
  total : Nat
  page : Nat
  pages : Nat

namespace Explanation

/-- The entries of the order, or a remark that there are none. -/
def showOrder (order : List Order) : String :=
  if order.isEmpty then "(none)" else Text.joinWith ", " (order.map Order.describe)

/-- The properties of the question with their values. -/
def entries (e : Explanation) : List (String × String) :=
  [("Requested language", e.query.requestedLanguage.name),
    ("Language", e.query.language.name),
    ("Statement", e.query.statement),
    ("Count statement", e.count.statement),
    ("Criterion", e.query.criterion.describe),
    ("Base path", e.query.basePath.getD "/"),
    ("Type", e.query.nodeType.getD "(any)"),
    ("Order", showOrder e.query.order),
    ("Offset", toString e.query.offset),
    ("Limit", (e.query.limit.map toString).getD "(unbounded)")]

/-- The explanation as a table. -/
def table (e : Explanation) : Table :=
  ⟨["Property", "Value"], e.entries.map fun (name, value) => [name, value]⟩

/-- The explanation as a document. -/
def toJson (e : Explanation) : Json :=
  .record [("query", e.query.toJson), ("count_statement", .ofString e.count.statement)]

end Explanation

namespace PageReport

/-- The rows as a table. -/
def table (r : PageReport) : Table :=
  ⟨["Path", "Type", "Score"],
    r.rows.map fun row => [row.node.path, row.node.entry.primaryType, row.score.toFixed 2]⟩

/-- The line below the table. -/
def summary (r : PageReport) : String :=
  toString r.total ++ " total, page " ++ toString r.page ++ " of " ++ toString r.pages

/-- The report as text. -/
def text (r : PageReport) : String := ofLines ([r.statement] ++ r.table.lines ++ [r.summary])

/-- A row as a document. -/
def rowToJson (row : Row) : Json :=
  .record [("path", .ofString row.node.path), ("primary_type", .ofString row.node.entry.primaryType),
    ("score", .ofDouble row.score)]

/-- The report as a document. -/
def toJson (r : PageReport) : Json :=
  .record [("statement", .ofString r.statement), ("rows", .array (r.rows.map rowToJson)),
    ("total", .ofNat r.total), ("page", .ofNat r.page), ("pages", .ofNat r.pages)]

end PageReport

end CommandLine

namespace Descriptor

/-- The statement with its language as a document. -/
def statementToJson (d : Descriptor) : Json :=
  .record [("language", .ofString d.language.name), ("statement", .ofString d.statement)]

end Descriptor

end ContentQuery
