import ContentQuery.Error
import ContentQuery.Json.Reader

/-!
# Taking values from documents

What a document is read as: simple values, named choices, lists and records. The parts are read
from left to right, and the first fault counts. A record is written as an object with a member for
each field, or as an array of the fields in order; members that it does not know are ignored.
-/

namespace ContentQuery

/-- Why a document is not read. -/
inductive ReadFault where
  /-- It is no document, or not one of the kind that is expected. -/
  | malformed
  /-- It is one, but says something that is refused. -/
  | refused (why : Error)
  deriving DecidableEq

/-- What is read from a document. -/
abbrev Read (α : Type) := Except ReadFault α

/-- The document is not of the kind that is expected. -/
def malformed {α : Type} : Read α := .error .malformed

/-- A result of the library, as a part of reading. -/
def Read.ofResult {α : Type} (r : Result α) : Read α := r.mapError .refused

namespace Json

/-- A text. -/
def asString : Json → Read String
  | text (some s) => .ok s
  | _ => malformed

/-- A truth value. -/
def asBool : Json → Read Bool
  | boolean b => .ok b
  | _ => malformed

/-- A text, or nothing for null. -/
def asOptionalString : Json → Read (Option String)
  | null => .ok none
  | other => other.asString.map some

/-- An integer in a range, the upper end excluded. -/
def asIntIn (low high : Int) : Json → Read Int
  | number digits =>
    match (numberParts? digits).bind NumberParts.integer? with
    | some n => if low ≤ n ∧ n < high then .ok n else malformed
    | none => malformed
  | _ => malformed

/-- The least integer that is too great for 64 bits with a sign. -/
def longLimit : Int := 0x8000000000000000

/-- A 64-bit integer. -/
def asLong (j : Json) : Read Int64 := (j.asIntIn (-longLimit) longLimit).map Int64.ofInt

/-- A number of rows. -/
def asCount (j : Json) : Read Nat := (j.asIntIn 0 wordCount).map Int.toNat

/-- A number of rows, or nothing for null. -/
def asOptionalCount : Json → Read (Option Nat)
  | null => .ok none
  | other => other.asCount.map some

/-- A double. -/
def asDouble : Json → Read Double
  | number digits =>
    match (numberParts? digits).bind NumberParts.double? with
    | some x => .ok x
    | none => malformed
  | _ => malformed

/-- Reads each item of a list. -/
def eachOf {ν α : Type} (read : ν → Read α) : List ν → Read (List α)
  | [] => .ok []
  | item :: rest => do
    let a ← read item
    let others ← eachOf read rest
    return a :: others

/-- An array of which each item is read. -/
def asList {α : Type} (read : Json → Read α) : Json → Read (List α)
  | array items => eachOf read items
  | _ => malformed

/-- The choice with a name. -/
def choose {α : Type} (choices : List (String × α)) (name : String) : Read α :=
  match choices.find? (·.1 = name) with
  | some (_, a) => .ok a
  | none => malformed

/-- One of several choices, given by its name, or as an object whose only member has that name and
an empty value. -/
def asChoice {α : Type} (isEmpty : Json → Bool) (choices : List (String × α)) : Json → Read α
  | text (some name) => choose choices name
  | object [(some name, value)] => do
    let a ← choose choices name
    if isEmpty value then return a else malformed
  | _ => malformed

/-- Whether a document is null. -/
def isNull : Json → Bool
  | null => true
  | _ => false

/-- A field of a record under construction: its name, and how its value changes the record. -/
structure Field (ν ρ : Type) where
  name : String
  read : ν → ρ → Read ρ

/-- Reads the members of an object into a record. Answers the record and the fields that were
there; none may be there twice. Other members are passed over if `skips` allows it. -/
def readMembers {ν ρ : Type} (fields : List (Field ν ρ)) (skips : ν → Bool) (seen : List String)
    (record : ρ) : List (Option String × ν) → Read (ρ × List String)
  | [] => .ok (record, seen)
  | (none, _) :: _ => malformed
  | (some key, value) :: rest =>
    match fields.find? (·.name = key) with
    | some field =>
      if seen.contains key then malformed
      else do
        let record ← field.read value record
        readMembers fields skips (key :: seen) record rest
    | none => if skips value then readMembers fields skips seen record rest else malformed

/-- Reads the items of an array into a record, one for each field in order. Answers the record and
the fields that were there; there may be no more items than fields. -/
def readItems {ν ρ : Type} (seen : List String) (record : ρ) :
    List (Field ν ρ) → List ν → Read (ρ × List String)
  | _, [] => .ok (record, seen)
  | [], _ :: _ => malformed
  | field :: fields, value :: rest => do
    let record ← field.read value record
    readItems (field.name :: seen) record fields rest

/-- Whether all of some fields were there. -/
def haveSeen (needed seen : List String) : Bool := needed.all seen.contains

/-- The description of a record: its fields, those that every object needs, those that every array
needs, and the record that reading begins with. -/
structure Shape (ν ρ : Type) where
  fields : List (Field ν ρ)
  needed : List String
  neededInArray : List String
  start : ρ

/-- The record of the members of an object. -/
def Shape.ofMembers {ν ρ : Type} (shape : Shape ν ρ) (skips : ν → Bool)
    (members : List (Option String × ν)) : Read ρ := do
  let (record, seen) ← readMembers shape.fields skips [] shape.start members
  if haveSeen shape.needed seen then return record else malformed

/-- The record of the items of an array. -/
def Shape.ofItems {ν ρ : Type} (shape : Shape ν ρ) (items : List ν) : Read ρ := do
  let (record, seen) ← readItems [] shape.start shape.fields items
  if haveSeen shape.neededInArray seen then return record else malformed

/-- A record. -/
def asRecord {ρ : Type} (shape : Shape Json ρ) : Json → Read ρ
  | object members => shape.ofMembers isWhole members
  | array items => shape.ofItems items
  | _ => malformed

/-- Reads a text as a document of some kind, behind which nothing follows. -/
def decode {α : Type} (read : Json → Read α) (s : String) : Read α := do
  let document := ofText s
  let a ← read document.value
  if document.isClean then return a else malformed

end Json

end ContentQuery
