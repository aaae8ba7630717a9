import ContentQuery.Proofs.Number.Layout
import ContentQuery.Proofs.Statement.Grammar
import ContentQuery.Proofs.Time.Instant
import ContentQuery.Statement.Request
import ContentQuery.Value

/-!
# Reading literals

A text between single quotes ends at the first quote that no other quote follows, and a number at
the first character that no number has. Both are read back from what the languages write, whatever
stands behind them in a statement.
-/

namespace ContentQuery

namespace Literal

/-- Reads a quoted text behind its opening quote; two quotes stand for one. -/
def readQuoted : List Char → Option (List Char × List Char)
  | [] => none
  | '\x27' :: '\x27' :: rest => (readQuoted rest).map fun (s, rest) => ('\x27' :: s, rest)
  | '\x27' :: rest => some ([], rest)
  | c :: rest => (readQuoted rest).map fun (s, rest) => (c :: s, rest)

/-- Reads a text between single quotes. -/
def readText? : List Char → Option (String × List Char)
  | '\x27' :: rest => (readQuoted rest).map fun (s, rest) => (String.ofList s, rest)
  | _ => none

/-- Reads an integer. -/
def readLong? : List Char → Option Int64
  | '-' :: digits =>
    if digits.isEmpty || !digits.all Char.isDigit then none
    else some (Int64.ofInt (-(Double.digitsValue digits : ℤ)))
  | digits =>
    if digits.isEmpty || !digits.all Char.isDigit then none
    else some (Int64.ofInt (Double.digitsValue digits))

/-- Reads a number: a double if it has a point or an exponent, and an integer otherwise. -/
def readNumber? (s : List Char) : Option (Value × List Char) :=
  let token := s.takeWhile Double.isNumberChar
  let rest := s.dropWhile Double.isNumberChar
  if token.contains '.' || token.contains 'e' then
    (Double.ofText? (String.ofList token)).map fun x => (.double x, rest)
  else (readLong? token).map fun n => (.long n, rest)

/-- The end of a quoted text. -/
theorem readQuoted_close {rest : List Char} (h : rest.head? ≠ some '\x27') :
    readQuoted ('\x27' :: rest) = some ([], rest) := by
  cases rest with
  | nil => rfl
  | cons c rest =>
    have hc : c ≠ '\x27' := by simpa using h
    unfold readQuoted
    split
    · next heq => cases heq
    · next heq => exact absurd (List.cons.inj (List.cons.inj heq).2).1 hc
    · next heq => rw [(List.cons.inj heq).2]
    · next hne heq => exact absurd (List.cons.inj heq).1.symm hne

/-- A quoted text is read up to its closing quote. -/
theorem readQuoted_doubleQuotes (s : List Char) {rest : List Char} (h : rest.head? ≠ some '\x27') :
    readQuoted (doubleQuotes s ++ '\x27' :: rest) = some (s, rest) := by
  induction s with
  | nil => exact readQuoted_close h
  | cons c s ih =>
    by_cases hc : c = '\x27'
    · subst hc
      simp [doubleQuotes, readQuoted, ih]
    · have hstep : readQuoted (c :: (doubleQuotes s ++ '\x27' :: rest)) =
          (readQuoted (doubleQuotes s ++ '\x27' :: rest)).map fun (s, rest) => (c :: s, rest) :=
        readQuoted.eq_4 c _ (fun _ heq _ => hc heq) hc
      rw [doubleQuotes, if_neg hc, List.cons_append, hstep, ih]
      rfl

/-- A literal text is read back, whatever follows but another quote. -/
theorem readText?_text (s : String) {rest : List Char} (h : rest.head? ≠ some '\x27') :
    readText? ((text s).toList ++ rest) = some (s, rest) := by
  have htext : (text s).toList ++ rest =
      '\x27' :: (doubleQuotes s.toList ++ '\x27' :: rest) := by simp [text]
  rw [htext, readText?, readQuoted_doubleQuotes s.toList h, Option.map_some]
  simp only [String.ofList_toList]

/-- A text without quotes is read back as it stands between quotes. -/
theorem readText?_plain {s : List Char} (hs : '\x27' ∉ s) {rest : List Char}
    (h : rest.head? ≠ some '\x27') :
    readText? ('\x27' :: (s ++ '\x27' :: rest)) = some (String.ofList s, rest) := by
  have hdouble : doubleQuotes s = s := by
    induction s with
    | nil => rfl
    | cons c s ih =>
      obtain ⟨hc, hrest⟩ := not_or.mp (mt List.mem_cons.mpr hs)
      rw [doubleQuotes, if_neg (Ne.symm hc), ih hrest]
  have hread := readQuoted_doubleQuotes s h
  rw [hdouble] at hread
  rw [readText?, hread, Option.map_some]

/-- The text of an integer is its digits behind a sign. -/
theorem toList_long (n : Int64) :
    (long n).toList = (if n.toInt < 0 then ['-'] else []) ++ Nat.toDigits 10 n.toInt.natAbs :=
  Double.toList_toString n.toInt

/-- An integer is read back. -/
theorem readLong?_long (n : Int64) : readLong? (long n).toList = some n := by
  have hdigits := IsDigits.toDigits n.toInt.natAbs
  obtain ⟨d, more, hcons, hd⟩ := hdigits.exists_cons
  have hminus : d ≠ '-' := Text.ne_of_kind hd rfl
  rw [toList_long]
  rcases Int.lt_or_le n.toInt 0 with hneg | hnonneg
  · have habs : -(n.toInt.natAbs : ℤ) = n.toInt := by omega
    rw [if_pos hneg, List.singleton_append, readLong?, hdigits.isEmpty_eq, hdigits.all_eq,
      Double.digitsValue_toDigits, habs, Int64.ofInt_toInt]
    rfl
  · have habs : (n.toInt.natAbs : ℤ) = n.toInt := by omega
    rw [if_neg (by omega), List.nil_append]
    unfold readLong?
    split
    · next heq =>
      rw [hcons] at heq
      exact absurd (List.cons.inj heq).1 hminus
    · rw [hdigits.isEmpty_eq, hdigits.all_eq, Double.digitsValue_toDigits, habs,
        Int64.ofInt_toInt]
      rfl

/-- What may stand behind a unit is no part of a number. -/
theorem not_isNumberChar_of_boundary {rest : List Char} (h : Grammar.Boundary rest) :
    ∀ c ∈ rest.head?, Double.isNumberChar c = false := by
  intro c hc
  rcases h.head c hc with rfl | rfl | rfl <;> rfl

/-- What may stand behind a unit is no quote. -/
theorem head?_ne_quote_of_boundary {rest : List Char} (h : Grammar.Boundary rest) :
    rest.head? ≠ some '\x27' := by
  intro hc
  rcases h.head '\x27' hc with heq | heq | heq <;> cases heq

/-- A text consists of characters of numbers and has at least one. -/
structure IsNumber (s : List Char) : Prop where
  nonempty : s ≠ []
  all : ∀ c ∈ s, Double.isNumberChar c = true

/-- The first character of a number is one of a number, whatever stands behind it. -/
theorem IsNumber.exists_cons {s : List Char} (h : IsNumber s) (rest : List Char) :
    ∃ c more, s ++ rest = c :: more ∧ Double.isNumberChar c = true := by
  obtain ⟨c, more, rfl⟩ := List.exists_cons_of_ne_nil h.nonempty
  exact ⟨c, more ++ rest, rfl, h.all c List.mem_cons_self⟩

/-- The characters of an integer are digits and the sign. -/
theorem mem_long {n : Int64} {c : Char} (h : c ∈ (long n).toList) : c = '-' ∨ c.isDigit = true := by
  rw [toList_long] at h
  rcases List.mem_append.mp h with h | h
  · split at h
    · exact .inl (List.mem_singleton.mp h)
    · cases h
  · exact .inr (Double.isDigit_of_mem_toDigits h)

/-- The text of an integer is one of a number. -/
theorem isNumber_long (n : Int64) : IsNumber (long n).toList := by
  refine ⟨?_, fun c hc => ?_⟩
  · rw [toList_long]
    exact List.append_ne_nil_of_right_ne_nil _ (IsDigits.toDigits _).nonempty
  · rcases mem_long hc with rfl | hd
    · rfl
    · exact Double.isNumberChar_of_isDigit hd

/-- An integer is read from a statement. -/
theorem readNumber?_long (n : Int64) {rest : List Char} (h : Grammar.Boundary rest) :
    readNumber? ((long n).toList ++ rest) = some (.long n, rest) := by
  have hall := (isNumber_long n).all
  have hplain {c : Char} (hminus : c ≠ '-') (hdigit : c.isDigit = false) :
      (long n).toList.contains c = false := by
    rw [List.contains_eq_mem, decide_eq_false_iff_not]
    intro hc
    rcases mem_long hc with heq | hd
    · exact hminus heq
    · rw [hdigit] at hd
      cases hd
  have hrest := not_isNumberChar_of_boundary h
  simp only [readNumber?, Text.takeWhile_append hall hrest, Text.dropWhile_append hall hrest,
    hplain (by decide : '.' ≠ '-') rfl, hplain (by decide : 'e' ≠ '-') rfl, readLong?_long]
  rfl

/-- The text of a finite double is one of a number, with a point or an exponent. -/
theorem isNumber_toText {x : Double} (hx : x.isFinite = true) :
    IsNumber x.toText.toList ∧ ('.' ∈ x.toText.toList ∨ 'e' ∈ x.toText.toList) := by
  obtain ⟨worth, hdecimal, -⟩ := Double.isDecimal_writeMagnitude .plain x.magnitude
  rw [Double.toText_eq hx, String.toList_ofList]
  refine ⟨⟨?_, fun c hc => ?_⟩, ?_⟩
  · obtain ⟨d, more, hcons, -⟩ := hdecimal.first
    rw [hcons]
    simp
  · rcases List.mem_append.mp hc with hc | hc
    · split at hc
      · rw [List.mem_singleton.mp hc]
        rfl
      · cases hc
    · exact hdecimal.chars c hc
  · rcases hdecimal.marked with hmark | hmark <;> simp [hmark]

/-- A finite double is read from a statement. -/
theorem readNumber?_double {x : Double} (hx : x.isFinite = true) {rest : List Char}
    (h : Grammar.Boundary rest) :
    readNumber? (x.toText.toList ++ rest) = some (.double x, rest) := by
  obtain ⟨⟨-, hall⟩, hmarked⟩ := isNumber_toText hx
  have hdouble : (x.toText.toList.contains '.' || x.toText.toList.contains 'e') = true := by
    rcases hmarked with hmark | hmark <;> simp [hmark]
  have hrest := not_isNumberChar_of_boundary h
  simp only [readNumber?, Text.takeWhile_append hall hrest, Text.dropWhile_append hall hrest,
    hdouble, String.ofList_toList, Double.ofText?_toText hx]
  rfl

/-- A double that has a literal is finite, and its literal is its text. -/
theorem eq_of_double {x : Double} {s : String} (h : double x = .ok s) :
    x.isFinite = true ∧ s = x.toText := by
  rw [double] at h
  split at h
  · next hfinite => exact ⟨hfinite, (Except.ok.inj h).symm⟩
  · cases h

/-- The values that both languages write as the same literal. -/
inductive IsShared : Value → String → Prop
  | text (t : String) : IsShared (.text t) (text t)
  | long (n : Int64) : IsShared (.long n) (long n)
  | double {x : Double} {s : String} (h : double x = .ok s) : IsShared (.double x) s

/-- A reader that reads a text at a quote, and a number where there is one, reads back what both
languages write alike. -/
theorem IsShared.read_append {read : List Char → Option (Value × List Char)}
    (htext : ∀ s, read ('\x27' :: s) =
      (readText? ('\x27' :: s)).map fun (t, rest) => (.text t, rest))
    (hnumber : ∀ {s}, IsNumber s → ∀ rest, read (s ++ rest) = readNumber? (s ++ rest))
    {v : Value} {s : String} (h : IsShared v s) {rest : List Char} (hrest : Grammar.Boundary rest) :
    read (s.toList ++ rest) = some (v, rest) := by
  cases h with
  | text t =>
    have hread := readText?_text t (head?_ne_quote_of_boundary hrest)
    have hquote : (Literal.text t).toList ++ rest =
        '\x27' :: (doubleQuotes t.toList ++ ['\x27'] ++ rest) := by simp [Literal.text]
    rw [hquote] at hread ⊢
    rw [htext, hread, Option.map_some]
  | long n => rw [hnumber (isNumber_long n), readNumber?_long n hrest]
  | double h =>
    obtain ⟨hfinite, rfl⟩ := eq_of_double h
    rw [hnumber (isNumber_toText hfinite).1, readNumber?_double hfinite hrest]

end Literal

end ContentQuery
