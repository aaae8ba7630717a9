import ContentQuery.Text.Emoji
import ContentQuery.Text.Ligature

/-!
# Display width

How many columns a text takes on a terminal. Alone, a wide character of East Asian scripts or a
pictograph takes two, a mark or a character that is not drawn none, and every other character one.

Characters that are drawn as one sign are counted together. What a character adds depends on what
follows it, so a text is read from its end, and what was read is remembered as the follower of the
character before. A selector asks the character before it for a form, a joiner makes one picture of
several, and letters of some scripts form ligatures.
-/

namespace ContentQuery.Text

/-- East Asian wide and full-width characters, and one independent vowel of Khmer. -/
def wideRanges : Ranges :=
  [(0x1100, 0x115F), (0x17A4, 0x17A4), (0x231A, 0x231B), (0x2329, 0x232A), (0x23E9, 0x23EC),
   (0x23F0, 0x23F0), (0x23F3, 0x23F3), (0x25FD, 0x25FE), (0x2614, 0x2615), (0x2630, 0x2637),
   (0x2648, 0x2653), (0x267F, 0x267F), (0x268A, 0x268F), (0x2693, 0x2693), (0x26A1, 0x26A1),
   (0x26AA, 0x26AB), (0x26BD, 0x26BE), (0x26C4, 0x26C5), (0x26CE, 0x26CE), (0x26D4, 0x26D4),
   (0x26EA, 0x26EA), (0x26F2, 0x26F3), (0x26F5, 0x26F5), (0x26FA, 0x26FA), (0x26FD, 0x26FD),
   (0x2705, 0x2705), (0x270A, 0x270B), (0x2728, 0x2728), (0x274C, 0x274C), (0x274E, 0x274E),
   (0x2753, 0x2755), (0x2757, 0x2757), (0x2795, 0x2797), (0x27B0, 0x27B0), (0x27BF, 0x27BF),
   (0x2B1B, 0x2B1C), (0x2B50, 0x2B50), (0x2B55, 0x2B55), (0x2E80, 0x2E99), (0x2E9B, 0x2EF3),
   (0x2F00, 0x2FD5), (0x2FF0, 0x3029), (0x3030, 0x303E), (0x3041, 0x3096), (0x309B, 0x30FF),
   (0x3105, 0x312F), (0x3131, 0x3163), (0x3165, 0x318E), (0x3190, 0x31E5), (0x31EF, 0x321E),
   (0x3220, 0x3247), (0x3250, 0xA48C), (0xA490, 0xA4C6), (0xA960, 0xA97C), (0xAC00, 0xD7A3),
   (0xF900, 0xFAFF), (0xFE10, 0xFE19), (0xFE30, 0xFE52), (0xFE54, 0xFE66), (0xFE68, 0xFE6B),
   (0xFF01, 0xFF60), (0xFFE0, 0xFFE6), (0x16FE0, 0x16FE3), (0x16FF2, 0x16FF6), (0x17000, 0x18CD5),
   (0x18CFF, 0x18D1E), (0x18D80, 0x18DF2), (0x18E00, 0x19191), (0x191A0, 0x191D2),
   (0x1AFF0, 0x1AFF3), (0x1AFF5, 0x1AFFB), (0x1AFFD, 0x1AFFE), (0x1B000, 0x1B122),
   (0x1B132, 0x1B132), (0x1B150, 0x1B152), (0x1B155, 0x1B155), (0x1B164, 0x1B168),
   (0x1B170, 0x1B2FB), (0x1D300, 0x1D356), (0x1D360, 0x1D376), (0x1F004, 0x1F004),
   (0x1F0CF, 0x1F0CF), (0x1F18E, 0x1F18E), (0x1F191, 0x1F19A), (0x1F200, 0x1F202),
   (0x1F210, 0x1F23B), (0x1F240, 0x1F248), (0x1F250, 0x1F251), (0x1F260, 0x1F265),
   (0x1F300, 0x1F320), (0x1F32D, 0x1F335), (0x1F337, 0x1F37C), (0x1F37E, 0x1F393),
   (0x1F3A0, 0x1F3CA), (0x1F3CF, 0x1F3D3), (0x1F3E0, 0x1F3F0), (0x1F3F4, 0x1F3F4),
   (0x1F3F8, 0x1F43E), (0x1F440, 0x1F440), (0x1F442, 0x1F4FC), (0x1F4FF, 0x1F53D),
   (0x1F54B, 0x1F54E), (0x1F550, 0x1F567), (0x1F57A, 0x1F57A), (0x1F595, 0x1F596),
   (0x1F5A4, 0x1F5A4), (0x1F5FB, 0x1F64F), (0x1F680, 0x1F6C5), (0x1F6CC, 0x1F6CC),
   (0x1F6D0, 0x1F6D2), (0x1F6D5, 0x1F6D9), (0x1F6DC, 0x1F6DF), (0x1F6EB, 0x1F6EC),
   (0x1F6F4, 0x1F6FC), (0x1F7E0, 0x1F7EB), (0x1F7F0, 0x1F7F0), (0x1F90C, 0x1F93A),
   (0x1F93C, 0x1F945), (0x1F947, 0x1F9FF), (0x1FA70, 0x1FA7C), (0x1FA80, 0x1FAC6),
   (0x1FAC8, 0x1FAC8), (0x1FACC, 0x1FADD), (0x1FADF, 0x1FAEB), (0x1FAEF, 0x1FAFA),
   (0x20000, 0x2FFFD), (0x30000, 0x3FFFD)]

/-- Characters that are ignored when drawn, the vowels and final consonants of composed Hangul, and
signs that are drawn around or on the letters after them. -/
def undrawnRanges : Ranges :=
  [(0xAD, 0xAD), (0x605, 0x605), (0x61C, 0x61C), (0x70F, 0x70F), (0x890, 0x891), (0x8E2, 0x8E2),
   (0xD4E, 0xD4E), (0x1160, 0x11FF), (0x180E, 0x180E), (0x200B, 0x200B), (0x200D, 0x200F),
   (0x202A, 0x202E), (0x2060, 0x206F), (0x3164, 0x3164), (0xA8FA, 0xA8FA), (0xD7B0, 0xD7C6),
   (0xD7CB, 0xD7FB), (0xFEFF, 0xFEFF), (0xFFA0, 0xFFA0), (0xFFF0, 0xFFF8), (0x111C2, 0x111C3),
   (0x113D1, 0x113D1), (0x1193F, 0x1193F), (0x11941, 0x11941), (0x11A3A, 0x11A3A),
   (0x11A84, 0x11A89), (0x11D46, 0x11D46), (0x11F02, 0x11F02), (0x1BCA0, 0x1BCA3),
   (0x1D173, 0x1D17A), (0xE0000, 0xE001F), (0xE0080, 0xE00FF), (0xE01F0, 0xE0FFF)]

/-- The sign of Khmer that stands for three. -/
def tripleSign : Char := '\u17D8'

/-- The number of columns of one character alone. -/
def charWidth (c : Char) : Nat :=
  if c = tripleSign then 3
  else if c = '\u2D7F' then 1
  else if isExtending c || undrawnRanges.has c.toNat then 0
  else if wideRanges.has c.toNat then 2
  else 1

/-- A form that a character may be asked for. -/
inductive Form where
  /-- A quotation mark as wide as an ideograph. -/
  | wide
  /-- A picture as a text. -/
  | text
  /-- A text as a picture. -/
  | picture
  deriving DecidableEq

/-- The form that a selector asks for. -/
def Form.ofSelector? (c : Char) : Option Form :=
  match c with
  | '\uFE01' => some wide
  | '\uFE0E' => some text
  | '\uFE0F' => some picture
  | _ => none

/-- What a joiner with a picture after it has met so far, on the way to the picture before it. -/
inductive Joint where
  | bare
  /-- A selector of the picture form. -/
  | selected
  | keycap
  /-- A selector of the picture form and a key. -/
  | selectedKeycap
  /-- One letter of a flag. -/
  | flagLetter
  /-- An even number of flag letters, or an odd one from three. -/
  | flagLetters (even : Bool)
  /-- Tags: some letters, and some digits before them. -/
  | tags (letters digits : Nat)
  deriving DecidableEq

/-- What follows a character, as far as the columns of the character depend on it. -/
inductive Follower where
  | other
  /-- A selector that asks for a form. -/
  | asking (form : Form)
  | picture
  | tone
  /-- One letter of a flag. -/
  | flagLetter
  /-- Two flag letters or more. -/
  | flagLetters
  /-- A joiner before a picture. -/
  | joint (joint : Joint)
  /-- The last part of a ligature, whether a joiner stands before it, and the form asked for. -/
  | ending (ending : Ending) (joined : Bool) (form : Option Form)
  /-- An odd number of vowel signs e of Kirat Rai. -/
  | signE
  /-- An even number of vowel signs e of Kirat Rai, or the sign of two. -/
  | signAi
  deriving DecidableEq

/-- Whether a character is a quotation mark that comes in two widths. -/
def isCurlyQuote (c : Char) : Bool :=
  c = '\u2018' || c = '\u2019' || c = '\u201C' || c = '\u201D'

namespace Follower

/-- The form that a follower asks the character before it for. -/
def form? : Follower → Option Form
  | asking form => some form
  | ending _ _ form => form
  | joint .selected => some .picture
  | joint .selectedKeycap => some .picture
  | _ => none

/-- The follower when a selector comes before it. -/
def select (form : Form) : Follower → Follower
  | ending e joined _ => ending e joined (some form)
  | joint .bare => if form = .picture then joint .selected else asking form
  | joint .keycap => if form = .picture then joint .selectedKeycap else asking form
  | _ => asking form

/-- The follower when the form that it asks for is not heeded. -/
def unheeded : Follower → Follower
  | asking _ => other
  | ending e joined _ => ending e joined none
  | joint .selected => other
  | joint .selectedKeycap => other
  | after => after

/-- Whether a follower makes one picture with the picture before it. -/
def isJoint : Follower → Bool
  | joint _ => true
  | _ => false

/-- The columns of a character in the form that a follower asks for, if it has that form. -/
def heed? (c : Char) (after : Follower) : Option (Int × Follower) :=
  match after.form? with
  | some .picture => if isStyled c then some (if after.isJoint then 0 else 2, picture) else none
  | some .text => if isNarrowed c then some (1, other) else none
  | some .wide => if isCurlyQuote c then some (2, other) else none
  | none => none

/-- What a character is as a follower when nothing joins it. -/
def ofChar (c : Char) : Follower :=
  if isTone c then tone
  else if isFlagLetter c then flagLetter
  else if isPicture c then picture
  else if c.toNat = 0x16D67 then signE
  else if c.toNat = 0x16D68 then signAi
  else match Ending.ofChar? c with
    | some e => ending e false none
    | none => other

/-- A character that nothing joins. -/
def alone (c : Char) : Int × Follower := (charWidth c, ofChar c)

/-- A character before a joint, if it goes with it. Flag letters pair up from the left, so a third
letter takes the place of the first one and stands for a flag of its own. -/
def meetJoint? (c : Char) : Joint → Option (Int × Follower)
  | .bare =>
    if c = keycap then some (0, joint .keycap)
    else if isFlagLetter c then some (1, joint .flagLetter)
    else if isTone c then some (0, tone)
    else if c = lastTag then some (0, joint (.tags 0 0))
    else if isPicture c then some (0, picture)
    else none
  | .flagLetter => if isFlagLetter c then some (-1, joint (.flagLetters true)) else none
  | .flagLetters even =>
    if isFlagLetter c then some (if even then 3 else -1, joint (.flagLetters !even))
    else if c = joiner then some (0, joint .bare)
    else none
  | .tags letters digits =>
    if isTagLetter c ∧ letters < 6 ∧ digits = 0 then some (0, joint (.tags (letters + 1) 0))
    else if isTagDigit c ∧ letters < 5 ∧ digits < 3 then
      some (0, joint (.tags letters (digits + 1)))
    else if c = regionFlag ∧ (digits = 3 ∨ digits = 0 ∧ 3 ≤ letters) then some (0, picture)
    else none
  | .keycap => none
  | .selected => none
  | .selectedKeycap => none

/-- A character before the last part of a ligature, if it goes with it. -/
def meetEnding? (c : Char) (e : Ending) (joined : Bool) : Option (Int × Follower) :=
  if e.isLoose ∧ c = joiner then some (0, ending e true none)
  else if e.isLoose ∧ looseRanges.has c.toNat then some (0, ending e joined none)
  else match e.take? joined c with
    | some (columns, some e) => some (columns, ending e false none)
    | some (columns, none) => some (columns, other)
    | none => none

/-- A character before vowel signs of Kirat Rai, if it goes with them: two signs e are one sign ai,
and the sign aa before either of them makes one sign as well. -/
def meetSign? (c : Char) (odd : Bool) : Option (Int × Follower) :=
  if c.toNat = 0x16D63 then some (0, other)
  else if !odd then none
  else if c.toNat = 0x16D67 then some (0, signAi)
  else if c.toNat = 0x16D68 then some (1, signE)
  else if c.toNat = 0x16D69 then some (0, other)
  else none

/-- A character before a follower, if they make one sign or the character is a joiner of such. -/
def meet? (c : Char) : Follower → Option (Int × Follower)
  | other => none
  | asking _ => none
  | picture => if c = joiner then some (0, joint .bare) else none
  | tone =>
    if isTonable c then some (0, picture)
    else if c = joiner then some (0, joint .bare)
    else none
  | flagLetter => if isFlagLetter c then some (1, flagLetters) else none
  | flagLetters =>
    if isFlagLetter c then some (1, flagLetters)
    else if c = joiner then some (0, joint .bare)
    else none
  | joint j => meetJoint? c j
  | ending e joined _ => meetEnding? c e joined
  | signE => meetSign? c true
  | signAi => meetSign? c false

/-- What a character adds to the columns of what follows it, and what it is as a follower. -/
def place (c : Char) (after : Follower) : Int × Follower :=
  match after.heed? c with
  | some answer => answer
  | none =>
    match Form.ofSelector? c with
    | some form => (0, after.select form)
    | none => (after.unheeded.meet? c).getD (alone c)

end Follower

/-- The columns of a text, and what it is as a follower. -/
def measure (s : List Char) : Int × Follower :=
  s.foldr (fun c (columns, after) =>
    let (added, before) := after.place c
    (columns + added, before)) (0, .other)

/-- The number of columns of a text on one line. -/
def width (s : List Char) : Nat := (measure s).1.toNat

end ContentQuery.Text
