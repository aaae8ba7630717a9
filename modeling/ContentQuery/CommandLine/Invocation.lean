import ContentQuery.CommandLine.Switch
import ContentQuery.Language

/-!
# Invocations

What the arguments of the program ask for: a command on a file of criteria, the form of the output,
and a language that takes the place of the one in the file. Some switches may stand before and
after the command; of two formats the one behind the command counts.
-/

namespace ContentQuery

namespace CommandLine

/-- What is to be done with the criteria. -/
inductive Command where
  /-- Write the statement. -/
  | compile
  /-- Write everything that is known of the question. -/
  | explain
  /-- Search the nodes that a file lists. -/
  | run (listing : String)
  deriving DecidableEq

/-- The form of the output. -/
inductive Format where
  | table
  | json
  deriving DecidableEq

/-- What is asked of the program. -/
structure Invocation where
  command : Command
  /-- The name of the file of criteria. -/
  criteria : String
  /-- The language that takes the place of the one in the file. -/
  language : Option Language
  format : Format
  /-- Nothing is written but failures. -/
  quiet : Bool
  deriving DecidableEq

namespace Given

/-- The value of a switch. -/
def value? (given : Given) (name : String) : Option String :=
  (given.find? (·.1 = name)).map (·.2)

/-- Whether a switch was met. -/
def has (given : Given) (name : String) : Bool := (given.value? name).isSome

end Given

namespace Switch

/-- The form of the output. -/
def format : Switch := ⟨"format", none, .oneOf ["table", "json"]⟩

/-- Whether only failures are written. -/
def quiet : Switch := ⟨"quiet", some 'q', .nothing⟩

/-- Whether work in progress is reported. -/
def verbose : Switch := ⟨"verbose", some 'v', .nothing⟩

/-- Whether the version is asked for. -/
def version : Switch := ⟨versionName, some 'V', .nothing⟩

/-- The language that takes the place of the one in the file. -/
def language : Switch := ⟨"language", some 'l', .oneOf ["xpath", "sql2"]⟩

/-- The file that lists nodes. -/
def data : Switch := ⟨"data", some 'd', .text⟩

/-- The switches that may stand before and after a command. -/
def everywhere : List Switch := [format, quiet, verbose]

/-- The switches before a command. -/
def beforeCommand : List Switch := version :: everywhere

/-- The switches behind a command. -/
def behindCommand (readsListing : Bool) : List Switch :=
  (if readsListing then [data] else []) ++ language :: everywhere

end Switch

/-- The language with a name that the switch accepts. -/
def languageOf (name : String) : Language := if name = "xpath" then .xpath else .sql2

/-- The format with a name that the switch accepts. -/
def formatOf (name : String) : Format := if name = "json" then .json else .table

/-- The command with a name, once its switches are known. -/
def commandOf (name : String) (given : Given) : Except Stop Command :=
  match name, given.value? Switch.data.name with
  | "compile", _ => .ok .compile
  | "explain", _ => .ok .explain
  | "run", some listing => .ok (.run listing)
  | _, _ => .error .misuse

/-- What the arguments ask for. -/
def Invocation.ofArguments (arguments : List String) : Except Stop Invocation := do
  let (before, rest) ← readLeading Switch.beforeCommand arguments ⟨[], none⟩
  match rest with
  | [] => .error .misuse
  | name :: rest => do
    let (behind, words) ← readMixed (Switch.behindCommand (name = "run")) rest ⟨[], none⟩
    let command ← commandOf name behind
    match words with
    | [file] =>
      if file = "" then .error .misuse
      else
        let format := (behind.value? Switch.format.name).or (before.value? Switch.format.name)
        return {
          command
          criteria := file
          language := (behind.value? Switch.language.name).map languageOf
          format := (format.map formatOf).getD .table
          quiet := before.has Switch.quiet.name || behind.has Switch.quiet.name }
    | _ => .error .misuse

/-- The files that are read, in order. -/
def Invocation.files (invocation : Invocation) : List String :=
  match invocation.command with
  | .run listing => [invocation.criteria, listing]
  | _ => [invocation.criteria]

end CommandLine

end ContentQuery
