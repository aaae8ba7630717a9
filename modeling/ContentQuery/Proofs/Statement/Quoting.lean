import ContentQuery.Proofs.Statement.Literal
import ContentQuery.Statement.Sql2
import ContentQuery.Statement.XPath

/-!
# Quoted texts end where they end

What is read as a quoted text is exactly a literal with no quote behind it, so no other text and no
other rest could have been meant. Both languages quote every text of a condition between a beginning
and an end that are the same for all texts. Whatever a text holds, it neither ends its literal early
nor takes in what follows.
-/

namespace ContentQuery

/-- A place for a text in a condition. -/
inductive Slot where
  /-- The operand of a comparison. -/
  | operand (property : Property) (op : Comparator)
  /-- The literal of a pattern. -/
  | pattern (property : Property) (mode : MatchMode)
  /-- The text whose words are searched. -/
  | words (property : Property)
  /-- The path above the node. -/
  | path
  deriving DecidableEq

namespace Slot

/-- The condition with a text in the place. -/
def fill : Slot → String → Predicate
  | operand p op, s => .compare p op (.text s)
  | pattern p mode, s => .like p (mode.pattern s)
  | words p, s => .contains p s
  | path, s => .descendantOf s

/-- The text that is quoted: a pattern is written with its signs. -/
def quoted : Slot → String → String
  | pattern _ mode, s => (mode.pattern s).write
  | _, s => s

end Slot

namespace Literal

/-- What is read behind an opening quote is a text with its quotes doubled, up to a quote that no
other one follows. -/
theorem eq_of_readQuoted {u s rest : List Char} (h : readQuoted u = some (s, rest)) :
    u = doubleQuotes s ++ '\x27' :: rest ∧ rest.head? ≠ some '\x27' := by
  induction u using readQuoted.induct generalizing s rest with
  | case1 => cases h
  | case2 u ih =>
    rw [readQuoted] at h
    obtain ⟨⟨t, more⟩, hread, heq⟩ := Option.map_eq_some_iff.mp h
    cases heq
    obtain ⟨rfl, hrest⟩ := ih hread
    exact ⟨by simp [doubleQuotes], hrest⟩
  | case3 u hnext =>
    -- The closing quote: the reader looked at what follows, which is no quote.
    have hrest : u.head? ≠ some '\x27' := fun hhead => by
      obtain ⟨more, rfl⟩ := List.head?_eq_some_iff.mp hhead
      exact hnext more rfl
    rw [readQuoted_close hrest] at h
    cases h
    exact ⟨rfl, hrest⟩
  | case4 c u hnext hquote ih =>
    rw [readQuoted.eq_4 c u hnext hquote] at h
    obtain ⟨⟨t, more⟩, hread, heq⟩ := Option.map_eq_some_iff.mp h
    cases heq
    obtain ⟨rfl, hrest⟩ := ih hread
    exact ⟨by rw [doubleQuotes, if_neg hquote, List.cons_append], hrest⟩

/-- What is read as a text is its literal, with no quote behind it. -/
theorem eq_of_readText? {u rest : List Char} {s : String} (h : readText? u = some (s, rest)) :
    u = (text s).toList ++ rest ∧ rest.head? ≠ some '\x27' := by
  unfold readText? at h
  split at h
  · next u =>
    obtain ⟨⟨t, more⟩, hread, heq⟩ := Option.map_eq_some_iff.mp h
    cases heq
    obtain ⟨rfl, hrest⟩ := eq_of_readQuoted hread
    exact ⟨by simp [text], hrest⟩
  · cases h

/-- A text is written between a beginning and an end that are the same for all texts. Behind the
beginning it is read back, and what is left is the end and what follows. -/
def Delimits (write : String → Result String) (quoted : String → String) : Prop :=
  ∃ front back : String, ∀ s, ∃ written, write s = .ok written ∧
    ∀ rest : List Char, rest.head? ≠ some '\x27' →
      (Text.afterStart? front.toList (written.toList ++ rest)).bind readText? =
        some (quoted s, back.toList ++ rest)

/-- A literal between a beginning and an end that does not begin with a quote delimits its text. -/
theorem delimits_of_frame {write : String → Result String} {quoted : String → String}
    (front back : String) (hback : back.toList.head? ≠ some '\x27')
    (h : ∀ s, write s = .ok (front ++ text (quoted s) ++ back)) : Delimits write quoted := by
  refine ⟨front, back, fun s => ⟨_, h s, fun rest hrest => ?_⟩⟩
  have hnext : (back.toList ++ rest).head? ≠ some '\x27' := by
    cases hchars : back.toList with
    | nil => exact hrest
    | cons c more =>
      rw [hchars] at hback
      exact hback
  rw [String.toList_append, String.toList_append, List.append_assoc, List.append_assoc,
    Text.afterStart?_append, Option.bind_some, readText?_text _ hnext]

/-- A literal behind a beginning delimits its text. -/
theorem delimits_of_front {write : String → Result String} {quoted : String → String}
    (front : String) (h : ∀ s, write s = .ok (front ++ text (quoted s))) :
    Delimits write quoted :=
  delimits_of_frame front "" nofun fun s => by rw [h, String.append_empty]

end Literal

/-- Select statements delimit every text of a condition. -/
theorem Sql2.delimits_condition (slot : Slot) :
    Literal.Delimits (fun s => condition (slot.fill s)) slot.quoted := by
  cases slot with
  | operand p op =>
    exact Literal.delimits_of_front (column p ++ " " ++ operator op ++ " ") fun s => rfl
  | pattern p mode => exact Literal.delimits_of_front (column p ++ " LIKE ") fun s => rfl
  | words p =>
    exact Literal.delimits_of_frame ("CONTAINS(" ++ column p ++ ", ") ")" nofun fun s => rfl
  | path => exact Literal.delimits_of_frame "ISDESCENDANTNODE(a, " ")" nofun fun s => rfl

/-- Location paths delimit every text of a filter; a path is no part of one. -/
theorem XPath.delimits_filter (nested : Bool) {slot : Slot} (h : slot ≠ .path) :
    Literal.Delimits (fun s => filter nested (slot.fill s)) slot.quoted := by
  cases slot with
  | operand p op =>
    exact Literal.delimits_of_front (p.describe ++ " " ++ op.symbol ++ " ") fun s => rfl
  | pattern p mode =>
    exact Literal.delimits_of_frame ("jcr:like(" ++ p.describe ++ ", ") ")" nofun fun s => rfl
  | words p =>
    exact Literal.delimits_of_frame ("jcr:contains(" ++ p.describe ++ ", ") ")" nofun fun s => rfl
  | path => exact absurd rfl h

namespace Literal

/-- A literal delimits itself. In front of anything but another quote it is read back, and what
follows is left. What is read as a text is nothing else than that, so no two texts have literals
that could be taken for one another. And in both languages every text of a condition is read back
from its place, whatever it holds and whatever follows. -/
theorem text_delimits_itself :
    (∀ s t : String, t.toList.head? ≠ some '\x27' →
      readText? (text s ++ t).toList = some (s, t.toList)) ∧
    (∀ u s rest, readText? u = some (s, rest) →
      u = (text s).toList ++ rest ∧ rest.head? ≠ some '\x27') ∧
    (∀ slot : Slot, Delimits (fun s => Sql2.condition (slot.fill s)) slot.quoted) ∧
    ∀ nested, ∀ slot : Slot, slot ≠ .path →
      Delimits (fun s => XPath.filter nested (slot.fill s)) slot.quoted := by
  refine ⟨fun s t ht => ?_, fun u s rest => eq_of_readText?, Sql2.delimits_condition,
    fun nested slot => XPath.delimits_filter nested⟩
  rw [String.toList_append]
  exact readText?_text s ht

/-- A text of quotes that ends like a filter is read back before the end of a filter. -/
theorem text_delimits_itself_quotes :
    ("] | //*['" : String).toList.head? ≠ some '\x27' ∧
    readText? (text "''] or 'a' = '" ++ "] | //*['").toList =
      some ("''] or 'a' = '", "] | //*['".toList) ∧
    ∃ front back written, XPath.filter true (.contains ⟨"t"⟩ "') or ('") = .ok written ∧
      (Text.afterStart? front (written.toList ++ [']'])).bind readText? =
        some ("') or ('", back ++ [']']) := by
  obtain ⟨hread, -, -, hfilter⟩ := text_delimits_itself
  obtain ⟨front, back, hwords⟩ := hfilter true (.words ⟨"t"⟩) (by decide)
  obtain ⟨written, hwritten, hrest⟩ := hwords "') or ('"
  exact ⟨by decide, hread _ _ (by decide), front.toList, back.toList, written, hwritten,
    hrest [']'] (by decide)⟩

end Literal

end ContentQuery
