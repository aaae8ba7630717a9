import ContentQuery.Json.Number
import ContentQuery.Json.Tree

/-!
# Tokens of documents

The text of a document is cut into tokens in one pass. A text may name characters by 16-bit code
units; two units that form a pair are one character, and half of a pair alone makes the text
unreadable without ending the document.
-/

namespace ContentQuery

namespace Json

/-- A part of the text of a document. -/
inductive Token where
  | openArray
  | closeArray
  | openObject
  | closeObject
  | comma
  | colon
  /-- A value without parts. -/
  | leaf (value : Json)
  /-- Something that no document holds. -/
  | bad

/-- A part of a text: a character as it is, or a code unit by its number. -/
inductive TextPart where
  | char (c : Char)
  | unit (n : Nat)

/-- What is being read. Texts and words are kept last character first. -/
inductive Scan where
  | between
  | word (read : List Char)
  | text (read : List TextPart)
  | escape (read : List TextPart)
  | unit (read : List TextPart) (digits : List Char)

/-- Whether a code unit is the first half of a pair. -/
def isFirstHalf (n : Nat) : Bool := 0xD800 ≤ n ∧ n < 0xDC00

/-- Whether a code unit is the second half of a pair. -/
def isSecondHalf (n : Nat) : Bool := 0xDC00 ≤ n ∧ n < 0xE000

/-- The characters of a text, if no half of a pair stands alone. -/
def assemble : List TextPart → Option (List Char)
  | [] => some []
  | .char c :: rest => (assemble rest).map (c :: ·)
  | .unit n :: .unit m :: rest =>
    if isFirstHalf n then
      if isSecondHalf m then
        (assemble rest).map (Char.ofNat (0x10000 + (n - 0xD800) * 0x400 + (m - 0xDC00)) :: ·)
      else none
    else if isSecondHalf n then none
    else (assemble (.unit m :: rest)).map (Char.ofNat n :: ·)
  | .unit n :: rest =>
    if isFirstHalf n || isSecondHalf n then none else (assemble rest).map (Char.ofNat n :: ·)

/-- The value of a hexadecimal digit. -/
def hexValue? (c : Char) : Option Nat :=
  if c.isDigit then some (c.toNat - '0'.toNat)
  else if 'a' ≤ c ∧ c ≤ 'f' then some (c.toNat - 'a'.toNat + 10)
  else if 'A' ≤ c ∧ c ≤ 'F' then some (c.toNat - 'A'.toNat + 10)
  else none

/-- The value of hexadecimal digits, last one first. -/
def hexDigitsValue : List Char → Nat
  | [] => 0
  | c :: before => (hexValue? c).getD 0 + 16 * hexDigitsValue before

/-- The character that a letter behind a backslash stands for. -/
def unescaped? (c : Char) : Option Char :=
  if c = '"' ∨ c = '\\' ∨ c = '/' then some c
  else if c = 'b' then some '\x08'
  else if c = 'f' then some '\x0c'
  else if c = 'n' then some '\n'
  else if c = 'r' then some '\r'
  else if c = 't' then some '\t'
  else none

/-- Whether a character may stand between tokens. -/
def isSpace (c : Char) : Bool := c = ' ' || c = '\n' || c = '\t' || c = '\r'

/-- Whether a character is part of a number or a name. -/
def isWordChar (c : Char) : Bool := c.isAlphanum || c = '+' || c = '-' || c = '.'

/-- The token of a word. -/
def wordToken (word : List Char) : Token :=
  if word = ['n', 'u', 'l', 'l'] then .leaf null
  else if word = ['t', 'r', 'u', 'e'] then .leaf (boolean true)
  else if word = ['f', 'a', 'l', 's', 'e'] then .leaf (boolean false)
  else if (numberParts? word).isSome then .leaf (number word)
  else .bad

/-- The token of one character. -/
def mark? (c : Char) : Option Token :=
  if c = '[' then some .openArray
  else if c = ']' then some .closeArray
  else if c = '\x7b' then some .openObject
  else if c = '\x7d' then some .closeObject
  else if c = ',' then some .comma
  else if c = ':' then some .colon
  else none

/-- What a character between tokens begins: tokens that it ends at once, and what is read next;
nothing is read after something that no document holds. -/
def begin (c : Char) : List Token × Option Scan :=
  if isSpace c then ([], some .between)
  else if c = '"' then ([], some (.text []))
  else if isWordChar c then ([], some (.word [c]))
  else match mark? c with
    | some token => ([token], some .between)
    | none => ([.bad], none)

/-- The tokens of a text, given what is being read. -/
def tokensFrom : Scan → List Char → List Token
  | .between, [] => []
  | .word read, [] => [wordToken read.reverse]
  | _, [] => [.bad]
  | .between, c :: rest =>
    match begin c with
    | (tokens, some scan) => tokens ++ tokensFrom scan rest
    | (tokens, none) => tokens
  | .word read, c :: rest =>
    if isWordChar c then tokensFrom (.word (c :: read)) rest
    else wordToken read.reverse :: match begin c with
      | (tokens, some scan) => tokens ++ tokensFrom scan rest
      | (tokens, none) => tokens
  | .text read, c :: rest =>
    if c = '"' then
      .leaf (.text ((assemble read.reverse).map String.ofList)) :: tokensFrom .between rest
    else if c = '\\' then tokensFrom (.escape read) rest
    else if c.toNat < 32 then [.bad]
    else tokensFrom (.text (.char c :: read)) rest
  | .escape read, c :: rest =>
    if c = 'u' then tokensFrom (.unit read []) rest
    else match unescaped? c with
      | some d => tokensFrom (.text (.char d :: read)) rest
      | none => [.bad]
  | .unit read digits, c :: rest =>
    if (hexValue? c).isNone then [.bad]
    else if digits.length = 3 then
      tokensFrom (.text (.unit (hexDigitsValue (c :: digits)) :: read)) rest
    else tokensFrom (.unit read (c :: digits)) rest

/-- The tokens of a text. -/
def tokens (s : String) : List Token := tokensFrom .between s.toList

end Json

end ContentQuery
