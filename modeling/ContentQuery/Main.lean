import ContentQuery.CommandLine.Program

/-!
# The command line

Reads the files that the arguments name, and writes what comes of them.
-/

namespace ContentQuery

namespace CommandLine

/-- The contents of a file, if it can be read as text. -/
def contentsOf (file : String) : IO (Option String) := do
  try
    return some (← IO.FS.readFile file)
  catch _ =>
    return none

/-- Reads files by their names. -/
def readAll (files : List String) : IO (List (String × Option String)) :=
  files.mapM fun file => do return (file, ← contentsOf file)

/-- Writes an outcome and answers the exit code. -/
def report : Outcome → IO UInt32
  | .misuse => do
    IO.eprintln "usage: criterium compile|explain|run CRITERIA [--data NODES] [--language LANGUAGE]"
    return 2
  | .written text => do
    IO.print text
    return 0
  | .failure why => do
    IO.eprintln ("Error: " ++ why.message)
    return 1

end CommandLine

end ContentQuery

/-- The program. -/
def main (arguments : List String) : IO UInt32 := do
  let files ← ContentQuery.CommandLine.readAll (ContentQuery.CommandLine.filesOf arguments)
  ContentQuery.CommandLine.report
    (ContentQuery.CommandLine.outcomeOf arguments fun file => (files.lookup file).join)
