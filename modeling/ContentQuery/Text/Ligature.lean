import ContentQuery.Text.Visible

/-!
# Ligatures

Letters that are drawn as one sign. A ligature is found from its end: the state is the last part
of a sign, and each character before it either goes into the sign, leaves it waiting, or ends the
search. Marks that are never drawn and joiners may stand anywhere in a ligature, except that only
what lets letters join may stand between the two of Arabic.
-/

namespace ContentQuery.Text

/-- Extending characters that keep the letters around them from joining. -/
def apartRanges : Ranges :=
  [(0x9BE, 0x9BE), (0x9D7, 0x9D7), (0xB3E, 0xB3E), (0xB57, 0xB57), (0xBBE, 0xBBE), (0xBD7, 0xBD7),
   (0xCC0, 0xCC0), (0xCC2, 0xCC2), (0xCC7, 0xCC8), (0xCCA, 0xCCB), (0xCD5, 0xCD6), (0xD3E, 0xD3E),
   (0xD57, 0xD57), (0xDCF, 0xDCF), (0xDDF, 0xDDF), (0x1715, 0x1715), (0x1734, 0x1734),
   (0x1B35, 0x1B35), (0x1B3B, 0x1B3B), (0x1B3D, 0x1B3D), (0x1B43, 0x1B44), (0x1BAA, 0x1BAA),
   (0x1BF2, 0x1BF3), (0x200C, 0x200C), (0x2D7F, 0x2D7F), (0x302E, 0x302F), (0xA953, 0xA953),
   (0xA9C0, 0xA9C0), (0x111C0, 0x111C0), (0x11235, 0x11235), (0x1133E, 0x1133E),
   (0x1134D, 0x1134D), (0x11357, 0x11357), (0x113B8, 0x113B8), (0x113C2, 0x113C2),
   (0x113C5, 0x113C5), (0x113C7, 0x113C9), (0x113CF, 0x113CF), (0x114B0, 0x114B0),
   (0x114BD, 0x114BD), (0x115AF, 0x115AF), (0x116B6, 0x116B6), (0x11930, 0x11930),
   (0x1193D, 0x1193D), (0x11F41, 0x11F41), (0x16FF0, 0x16FF1), (0x1D165, 0x1D166),
   (0x1D16D, 0x1D172)]

/-- Format characters that let the letters around them join. -/
def passableRanges : Ranges :=
  [(0xAD, 0xAD), (0x61C, 0x61C), (0x70F, 0x70F), (0x200B, 0x200B), (0x200E, 0x200F),
   (0x202A, 0x202E), (0x2060, 0x2064), (0x206A, 0x206F), (0xFEFF, 0xFEFF), (0x1BCA0, 0x1BCA3),
   (0x1D173, 0x1D17A), (0xE0001, 0xE0001)]

/-- Marks that are never drawn. -/
def looseRanges : Ranges :=
  [(0x34F, 0x34F), (0x17B4, 0x17B5), (0x180B, 0x180D), (0x180F, 0x180F), (0xFE00, 0xFE0F),
   (0xE0100, 0xE01EF)]

/-- The Arabic letters in the group of alef. -/
def alefRanges : Ranges :=
  [(0x622, 0x623), (0x625, 0x625), (0x627, 0x627), (0x671, 0x673), (0x675, 0x675), (0x773, 0x774),
   (0x870, 0x882)]

/-- The Arabic letters in the group of lam. -/
def lamRanges : Ranges :=
  [(0x644, 0x644), (0x6B5, 0x6B8), (0x76A, 0x76A), (0x8A6, 0x8A6), (0x8C7, 0x8C7)]

/-- The Khmer letters whose form below another letter needs no column. -/
def subscriptRanges : Ranges :=
  [(0x1780, 0x1782), (0x1784, 0x1787), (0x1789, 0x178C), (0x178E, 0x1793), (0x1795, 0x1798),
   (0x179B, 0x179D), (0x17A0, 0x17A0), (0x17A2, 0x17A2), (0x17A7, 0x17A7), (0x17AB, 0x17AC),
   (0x17AF, 0x17AF)]

/-- Whether a character takes no column and lets the letters around it join. -/
def isPassable (c : Char) : Bool :=
  isExtending c && !apartRanges.has c.toNat || passableRanges.has c.toNat

/-- Whether a character is a consonant of Tifinagh. -/
def isTifinagh (c : Char) : Bool :=
  0x2D31 ≤ c.toNat && c.toNat ≤ 0x2D65 || c.toNat = 0x2D6F

/-- The last part of a sign that is drawn from several characters. -/
inductive Ending where
  /-- Arabic alef, which a lam takes up. -/
  | alef
  /-- Hebrew lamed, which a joined alef takes up. -/
  | lamed
  /-- Buginese ya. -/
  | ya
  /-- The vowel sign i with a joined Buginese ya, which a letter a takes up. -/
  | signAndYa
  /-- A consonant of Tifinagh, which a joined consonant takes up. -/
  | tifinagh
  /-- The joiner of Tifinagh with a consonant after it. -/
  | joinerAndTifinagh
  /-- A second tone letter of Lisu, which a first one takes up. -/
  | lowTone
  /-- The letter i of Old Turkic, which a joined letter takes up. -/
  | orkhon
  /-- A letter of Khmer, which the sign before it puts below another one. -/
  | subscript
  deriving DecidableEq

namespace Ending

/-- The sign that a character can be the last part of. -/
def ofChar? (c : Char) : Option Ending :=
  match c with
  | '\u05DC' => some lamed
  | '\u1A10' => some ya
  | '\uA4FC' | '\uA4FD' => some lowTone
  | _ =>
    if alefRanges.has c.toNat then some alef
    else if c.toNat = 0x10C03 then some orkhon
    else if isTifinagh c then some tifinagh
    else if subscriptRanges.has c.toNat then some subscript
    else none

/-- Whether joiners and marks that are never drawn may stand before the part. -/
def isLoose (ending : Ending) : Bool := ending ≠ alef

/-- What a character before the part adds to the columns of the sign, and the part that is then
waiting, if the sign is not whole. There is no answer if the character does not go with the part.
The flag says whether a joiner stands between them. -/
def take? (ending : Ending) (joined : Bool) (c : Char) : Option (Int × Option Ending) :=
  match ending with
  | alef =>
    if lamRanges.has c.toNat then some (0, none)
    else if isPassable c then some (0, some alef)
    else none
  | lamed => if joined ∧ c = '\u05D0' then some (0, none) else none
  | ya => if joined ∧ c = '\u1A17' then some (0, some signAndYa) else none
  | signAndYa => if c = '\u1A15' then some (0, none) else none
  | tifinagh =>
    if c = '\u2D7F' then some (1, some joinerAndTifinagh)
    else if joined ∧ isTifinagh c then some (0, none)
    else none
  | joinerAndTifinagh => if isTifinagh c then some (-1, none) else none
  | lowTone => if 0xA4F8 ≤ c.toNat ∧ c.toNat ≤ 0xA4FB then some (0, none) else none
  | orkhon => if joined ∧ c.toNat = 0x10C32 then some (0, none) else none
  | subscript => if c = '\u17D2' then some (-1, none) else none

end Ending

end ContentQuery.Text
