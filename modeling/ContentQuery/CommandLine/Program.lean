import ContentQuery.CommandLine.Invocation
import ContentQuery.CommandLine.Report
import ContentQuery.Json.Listing
import ContentQuery.Repository.Search

/-!
# The program

What is written for an invocation, given the contents of the files. The criteria are read first,
then the listing, and only then is anything compiled or searched. A failure to read says which file
it is about.
-/

namespace ContentQuery

namespace CommandLine

/-- Why an invocation fails. -/
inductive Failure where
  | unreadable (file : String)
  | badCriteria (file : String) (why : ReadFault)
  | badListing (file : String) (why : ReadFault)
  | failed (why : Error)
  deriving DecidableEq

/-- The cause of a fault as a part of a message. -/
def causeOf : ReadFault → String
  | .malformed => ""
  | .refused why => ": " ++ why.message

/-- The wording of a failure. -/
def Failure.message : Failure → String
  | unreadable file => "failed to read " ++ file
  | badCriteria file why => "invalid criteria in " ++ file ++ causeOf why
  | badListing file why => "invalid node list in " ++ file ++ causeOf why
  | failed why => why.message

/-- What comes of the arguments. -/
inductive Outcome where
  /-- The arguments make no sense. -/
  | misuse
  /-- A text to be written. -/
  | written (text : String)
  | failure (why : Failure)
  deriving DecidableEq

/-- The name and the version of the program. -/
def versionText : String := "criterium 0.1.0"

/-- A result of the library. -/
def ofResult {α : Type} (r : Result α) : Except Failure α := r.mapError .failed

/-- Reads a file as a document of some kind. -/
def readFile {α : Type} (contents : String → Option String) (read : Json → Read α)
    (fault : String → ReadFault → Failure) (file : String) : Except Failure α :=
  match contents file with
  | none => .error (.unreadable file)
  | some text => (Json.decode read text).mapError (fault file)

/-- The question that an invocation is about. -/
def Invocation.readCriteria (invocation : Invocation) (contents : String → Option String) :
    Except Failure Criteria := do
  let criteria ← readFile contents Criteria.ofJson .badCriteria invocation.criteria
  match invocation.language with
  | some language => return criteria.withLanguage language
  | none => return criteria

/-- The compiled question with its count. -/
def explain (criteria : Criteria) : Result Explanation := do
  let query ← Config.standard.compileCriteria criteria none
  let count ← query.countQuery
  return ⟨query, count⟩

/-- Searches the nodes of a listing. -/
def search (specs : List NodeSpec) (criteria : Criteria) : Result PageReport := do
  let (store, loaded) := Store.empty.load specs
  loaded
  let session : Session Nat := ⟨store.executor .plain .standard, .standard⟩
  let (result, runs) := session.execute criteria 0
  let result ← result
  let (items, result, runs) := result.items session.executor runs
  let items ← items
  let (rows, runs) := items.toRows session.executor runs
  let rows ← rows
  let (total, result, _) := result.totalSize session.executor runs
  let total ← total
  let page ← result.page
  let pages ← result.pages
  return ⟨result.query.statement, rows, total, page, pages⟩

/-- One of two texts, by the form of the output. -/
def Format.choose (format : Format) (table : String) (document : Json) : String :=
  match format with
  | .table => table
  | .json => showDocument document

/-- What a command writes. -/
def Invocation.answer (invocation : Invocation) (contents : String → Option String) :
    Except Failure String := do
  let criteria ← invocation.readCriteria contents
  match invocation.command with
  | .compile =>
    let query ← ofResult (Config.standard.compileCriteria criteria none)
    return invocation.format.choose (endLine query.statement) query.statementToJson
  | .explain =>
    let e ← ofResult (explain criteria)
    return invocation.format.choose (ofLines e.table.lines) e.toJson
  | .run listing =>
    let specs ← readFile contents NodeSpec.listOfJson .badListing listing
    let report ← ofResult (search specs criteria)
    return invocation.format.choose report.text report.toJson

/-- What is written in the end: nothing for a quiet invocation that succeeds. -/
def Invocation.outcome (invocation : Invocation) (contents : String → Option String) : Outcome :=
  match invocation.answer contents with
  | .ok text => .written (if invocation.quiet then "" else text)
  | .error why => .failure why

/-- The files that arguments name. -/
def filesOf (arguments : List String) : List String :=
  match Invocation.ofArguments arguments with
  | .ok invocation => invocation.files
  | .error _ => []

/-- What comes of arguments, given the contents of files. -/
def outcomeOf (arguments : List String) (contents : String → Option String) : Outcome :=
  match Invocation.ofArguments arguments with
  | .ok invocation => invocation.outcome contents
  | .error .misuse => .misuse
  | .error .version => .written (endLine versionText)

end CommandLine

end ContentQuery
