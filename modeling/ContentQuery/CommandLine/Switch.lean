/-!
# Switches

How the arguments of a command are taken apart. An argument is a plain word, a switch by its name
after two dashes, a group of letters after one, or two dashes alone, after which all arguments are
plain. A switch that takes a value has it in the same argument or as the next plain word. The first
argument that is out of place decides, and nothing behind the wish for the version is looked at.
-/

namespace ContentQuery

namespace CommandLine

/-- What a switch takes. -/
inductive Operand where
  | nothing
  /-- One of some names. -/
  | oneOf (names : List String)
  /-- Any text that is not empty. -/
  | text

/-- A switch: its name, and the letter that may stand for it. -/
structure Switch where
  name : String
  letter : Option Char
  operand : Operand

/-- Why arguments are not taken apart to the end. -/
inductive Stop where
  /-- An argument is out of place. -/
  | misuse
  /-- The version is asked for. -/
  | version
  deriving DecidableEq

/-- Switches that were met, with their values. -/
abbrev Given := List (String × String)

namespace Switch

/-- Whether a value is needed. -/
def takesValue (switch : Switch) : Bool :=
  match switch.operand with
  | .nothing => false
  | _ => true

/-- Whether a text may be the value. -/
def accepts (switch : Switch) (value : String) : Bool :=
  match switch.operand with
  | .nothing => value = ""
  | .oneOf names => names.contains value
  | .text => value ≠ ""

/-- The name of the switch that asks for the version. -/
def versionName : String := "version"

/-- Adds a switch that was met; no switch may be met twice. -/
def meet (switch : Switch) (value : String) (given : Given) : Except Stop Given :=
  if switch.name = versionName then .error .version
  else if given.any (·.1 = switch.name) || !switch.accepts value then .error .misuse
  else .ok ((switch.name, value) :: given)

end Switch

/-- What is read so far: the switches, and the one that still needs its value. -/
structure Reading where
  given : Given
  pending : Option Switch

/-- An argument by its form. -/
inductive Argument where
  | word (text : String)
  | named (name : String) (value : Option String)
  | letters (letters : List Char)
  | dashes

/-- The form of an argument. -/
def Argument.ofText (s : String) : Argument :=
  match s.toList with
  | ['-', '-'] => .dashes
  | '-' :: '-' :: rest =>
    let name := String.ofList (rest.takeWhile (· != '='))
    match rest.dropWhile (· != '=') with
    | _ :: value => .named name (some (String.ofList value))
    | [] => .named name none
  | '-' :: first :: rest => .letters (first :: rest)
  | _ => .word s

/-- Reads a switch that is given by its name. -/
def readNamed (known : List Switch) (name : String) (value : Option String) (given : Given) :
    Except Stop Reading :=
  match known.find? (·.name = name) with
  | none => .error .misuse
  | some switch =>
    match value with
    | some value =>
      if switch.takesValue then (switch.meet value given).map (⟨·, none⟩) else .error .misuse
    | none =>
      if switch.takesValue then .ok ⟨given, some switch⟩
      else (switch.meet "" given).map (⟨·, none⟩)

/-- The value behind a letter, for which an equals sign may be put in between. -/
def valueBehind : List Char → String
  | '=' :: rest => String.ofList rest
  | rest => String.ofList rest

/-- Reads a group of letters. The first one that takes a value takes the rest of the group. -/
def readLetters (known : List Switch) : List Char → Given → Except Stop Reading
  | [], given => .ok ⟨given, none⟩
  | c :: rest, given =>
    match known.find? (·.letter = some c) with
    | none => .error .misuse
    | some switch =>
      if switch.takesValue then
        if rest.isEmpty then .ok ⟨given, some switch⟩
        else (switch.meet (valueBehind rest) given).map (⟨·, none⟩)
      else
        match switch.meet "" given with
        | .ok given => readLetters known rest given
        | .error stop => .error stop

/-- Reads an argument that is no plain word and not the dashes. -/
def readSwitch (known : List Switch) (given : Given) : Argument → Except Stop Reading
  | .named name value => readNamed known name value given
  | .letters letters => readLetters known letters given
  | _ => .error .misuse

/-- Reads switches up to the first plain word, which begins the rest. -/
def readLeading (known : List Switch) : List String → Reading → Except Stop (Given × List String)
  | [], ⟨given, none⟩ => .ok (given, [])
  | [], ⟨_, some _⟩ => .error .misuse
  | s :: rest, ⟨given, pending⟩ =>
    match pending, Argument.ofText s with
    | none, .word _ => .ok (given, s :: rest)
    | none, argument =>
      match readSwitch known given argument with
      | .ok reading => readLeading known rest reading
      | .error stop => .error stop
    | some switch, .word value =>
      match switch.meet value given with
      | .ok given => readLeading known rest ⟨given, none⟩
      | .error stop => .error stop
    | some _, _ => .error .misuse

/-- Reads switches and plain words in any order. -/
def readMixed (known : List Switch) : List String → Reading → Except Stop (Given × List String)
  | [], ⟨given, none⟩ => .ok (given, [])
  | [], ⟨_, some _⟩ => .error .misuse
  | s :: rest, ⟨given, pending⟩ =>
    match pending, Argument.ofText s with
    | none, .word text => (readMixed known rest ⟨given, none⟩).map fun (given, words) =>
        (given, text :: words)
    | none, .dashes => .ok (given, rest)
    | none, argument =>
      match readSwitch known given argument with
      | .ok reading => readMixed known rest reading
      | .error stop => .error stop
    | some switch, .word value =>
      match switch.meet value given with
      | .ok given => readMixed known rest ⟨given, none⟩
      | .error stop => .error stop
    | some _, _ => .error .misuse

end CommandLine

end ContentQuery
