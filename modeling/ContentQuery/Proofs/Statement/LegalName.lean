import ContentQuery.Proofs.Statement.DecodedName
import ContentQuery.Text.Basic
import Mathlib.Data.List.Forall2

/-!
# Encoded names are legal

A step of a location path begins with a character that may begin a name and goes on with characters
that a name may have. An encoded name is such a step wherever the name came from, so a path with
each of its names encoded has as many steps as names, and none of them holds a character that would
end it. A name that could be a step already is kept, unless an encoded character is spelled in it.
-/

namespace ContentQuery

namespace Text

/-- A code point in ranges is one of those that a range counts up to. -/
theorem Ranges.exists_mem_range'_of_has {ranges : Ranges} {n : ℕ} (h : ranges.has n = true) :
    ∃ range ∈ ranges, n ∈ List.range' range.1 (range.2 + 1 - range.1) := by
  induction ranges with
  | nil => cases h
  | cons range rest ih =>
    rw [Ranges.has] at h
    split at h
    · cases h
    · next hlow =>
      split at h
      · next hhigh =>
        exact ⟨range, List.mem_cons_self, List.mem_range'_1.mpr ⟨by omega, by omega⟩⟩
      · obtain ⟨other, hother, hn⟩ := ih h
        exact ⟨other, List.mem_cons_of_mem range hother, hn⟩

/-- What holds of each code point that is white space holds of every white character. -/
theorem forall_of_isBlank {P : Char → Prop}
    (h : ∀ range ∈ blankRanges, ∀ n ∈ List.range' range.1 (range.2 + 1 - range.1),
      P (Char.ofNat n)) {c : Char} (hc : isBlank c = true) : P c := by
  obtain ⟨range, hrange, hn⟩ := Ranges.exists_mem_range'_of_has hc
  rw [← Char.ofNat_toNat c]
  exact h range hrange c.toNat hn

end Text

namespace EncodedName

/-! ### Legal names -/

/-- Whether a text may be a step of a location path. -/
def isName : List Char → Bool
  | [] => false
  | c :: rest => isNameStart c && rest.all isNameChar

/-- Quotes, brackets, parentheses and the star, which have a meaning between steps. -/
def marks : List Char := ['\x27', '"', '[', ']', '(', ')', '*']

/-- White space is no part of a name. -/
theorem isNameChar_of_isBlank {c : Char} (h : Text.isBlank c = true) : isNameChar c = false :=
  Text.forall_of_isBlank (P := fun c => isNameChar c = false) (by decide +kernel) h

/-- A mark is no part of a name. -/
theorem isNameChar_of_mem_marks {c : Char} (h : c ∈ marks) : isNameChar c = false := by
  have hnone : marks.any isNameChar = false := by decide
  rw [Bool.eq_false_iff]
  exact List.any_eq_false.mp hnone c h

/-- A character of a name is neither white space nor a mark. -/
theorem harmless_of_isNameChar {c : Char} (h : isNameChar c = true) :
    Text.isBlank c = false ∧ c ∉ marks := by
  constructor
  · rw [Bool.eq_false_iff]
    intro hblank
    exact Bool.false_ne_true ((isNameChar_of_isBlank hblank).symm.trans h)
  · intro hmark
    exact Bool.false_ne_true ((isNameChar_of_mem_marks hmark).symm.trans h)

/-- What is written of a character begins with a legal one where an underscore is legal. -/
theorem exists_encodeFirst_eq_cons (legal : Char → Bool) (hlegal : legal '_' = true) (c : Char)
    (rest : List Char) :
    ∃ first more, encodeFirst legal c rest = first :: more ∧ legal first = true := by
  rw [encodeFirst]
  split
  · next hkept => exact ⟨c, [], rfl, (Bool.and_eq_true_iff.mp hkept).1⟩
  · exact ⟨'_', _, rfl, hlegal⟩

/-- An encoded name is empty only if the name is. -/
theorem encode_eq_nil_iff {name : List Char} : encode name = [] ↔ name = [] := by
  cases name with
  | nil => rfl
  | cons c rest =>
    obtain ⟨first, more, hfirst, -⟩ := exists_encodeFirst_eq_cons isNameStart rfl c rest
    simp [encode, hfirst]

/-- An encoded name that is not empty is legal. -/
theorem isName_encode {name : List Char} (hne : name ≠ []) : isName (encode name) = true := by
  cases name with
  | nil => exact absurd rfl hne
  | cons c rest =>
    have hall : ∀ d ∈ encode (c :: rest), isNameChar d = true := fun d => isNameChar_of_mem_encode
    obtain ⟨first, more, hfirst, hstart⟩ := exists_encodeFirst_eq_cons isNameStart rfl c rest
    rw [encode, hfirst, List.cons_append] at hall ⊢
    rw [isName, hstart, Bool.true_and, List.all_eq_true]
    exact fun d hd => hall d (List.mem_cons_of_mem first hd)

/-! ### Names that are kept -/

/-- An encoded character is spelled in the text: an underscore and an `x`, four hexadecimal digits,
and an underscore. -/
def LooksEncoded (s : List Char) : Prop :=
  ∃ before digits rest, s = before ++ '_' :: 'x' :: (digits ++ '_' :: rest) ∧
    digits.length = 4 ∧ ∀ d ∈ digits, isHexDigit d = true

/-- A text begins like an encoded character if the spelling of one begins it. -/
theorem startsEncoded_iff {s : List Char} :
    startsEncoded s = true ↔ ∃ digits rest, s = '_' :: 'x' :: (digits ++ '_' :: rest) ∧
      digits.length = 4 ∧ ∀ d ∈ digits, isHexDigit d = true := by
  constructor
  · intro h
    unfold startsEncoded at h
    split at h
    · next a b c d rest => exact ⟨[a, b, c, d], rest, rfl, rfl, List.all_eq_true.mp h⟩
    · cases h
  · rintro ⟨digits, rest, rfl, hlength, hdigits⟩
    match digits, hlength with
    | [a, b, c, d], _ => exact List.all_eq_true.mpr hdigits

/-- Nothing is spelled in the empty text. -/
theorem not_looksEncoded_nil : ¬ LooksEncoded [] := by
  rintro ⟨before, digits, rest, heq, -⟩
  exact absurd heq (by simp)

/-- An encoded character is spelled at the beginning of a text or behind its first character. -/
theorem looksEncoded_cons_iff {c : Char} {rest : List Char} :
    LooksEncoded (c :: rest) ↔ startsEncoded (c :: rest) = true ∨ LooksEncoded rest := by
  rw [startsEncoded_iff]
  constructor
  · rintro ⟨before, digits, behind, heq, hdigits⟩
    cases before with
    | nil => exact .inl ⟨digits, behind, heq, hdigits⟩
    | cons d before => exact .inr ⟨before, digits, behind, (List.cons.inj heq).2, hdigits⟩
  · rintro (⟨digits, behind, heq, hdigits⟩ | ⟨before, digits, behind, rfl, hdigits⟩)
    · exact ⟨[], digits, behind, heq, hdigits⟩
    · exact ⟨c :: before, digits, behind, rfl, hdigits⟩

/-- A rest does not get shorter. -/
theorem length_le_length_encodeRest (s : List Char) : s.length ≤ (encodeRest s).length := by
  induction s with
  | nil => exact Nat.le_refl 0
  | cons c rest ih =>
    obtain ⟨first, more, hfirst, -⟩ := exists_encodeFirst_eq_cons isNameChar rfl c rest
    rw [encodeRest, hfirst, List.cons_append, List.length_cons, List.length_cons,
      List.length_append]
    omega

/-- A character in front of an encoded rest is kept together with it if it is legal, nothing like an
encoded character begins there and the rest is kept. -/
theorem encodeFirst_append_eq_iff {legal : Char → Bool} {c : Char} {rest : List Char} :
    encodeFirst legal c rest ++ encodeRest rest = c :: rest ↔
      legal c = true ∧ startsEncoded (c :: rest) = false ∧ encodeRest rest = rest := by
  rw [encodeFirst]
  split
  · next hkept =>
    obtain ⟨hlegal, hstarts⟩ := Bool.and_eq_true_iff.mp hkept
    rw [Bool.not_eq_true'] at hstarts
    simp [hlegal, hstarts]
  · next hkept =>
    constructor
    · intro heq
      -- The number of a character takes more room than the character did.
      have hlength := congrArg List.length heq
      have hrest := length_le_length_encodeRest rest
      simp only [encodeChar, List.length_append, List.length_cons] at hlength
      omega
    · rintro ⟨hlegal, hstarts, -⟩
      exact absurd (by simp [hlegal, hstarts]) hkept

/-- A rest is kept if its characters are legal and no encoded one is spelled in it. -/
theorem encodeRest_eq_self_iff (s : List Char) :
    encodeRest s = s ↔ s.all isNameChar = true ∧ ¬ LooksEncoded s := by
  induction s with
  | nil => simp [encodeRest, not_looksEncoded_nil]
  | cons c rest ih =>
    rw [encodeRest, encodeFirst_append_eq_iff, ih, List.all_cons, Bool.and_eq_true,
      looksEncoded_cons_iff, not_or, Bool.not_eq_true]
    tauto

/-- A name is kept if it is legal and no encoded character is spelled in it. -/
theorem encode_eq_self_iff {name : List Char} (hne : name ≠ []) :
    encode name = name ↔ isName name = true ∧ ¬ LooksEncoded name := by
  cases name with
  | nil => exact absurd rfl hne
  | cons c rest =>
    rw [encode, encodeFirst_append_eq_iff, encodeRest_eq_self_iff, isName, Bool.and_eq_true,
      looksEncoded_cons_iff, not_or, Bool.not_eq_true]
    tauto

example : encode "_x".toList = "_x".toList ∧
    encode "_x0020_".toList = "_x005F_x0020_".toList := by
  decide +kernel

/-! ### Steps of a path -/

/-- What a path has in the place of a name: its encoding, which is empty where the name is, and
otherwise a legal name without white space or marks. -/
structure IsStepFor (name step : List Char) : Prop where
  /-- The name is encoded by itself. -/
  encoded : step = encode name
  /-- No step comes or goes. -/
  empty_iff : step = [] ↔ name = []
  /-- A step is a legal name. -/
  legal : name ≠ [] → isName step = true
  /-- Nothing in a step ends it. -/
  harmless : ∀ c ∈ step, Text.isBlank c = false ∧ c ∉ marks
  /-- Legal names are kept, except where an encoded character is spelled in one. -/
  kept_iff : name ≠ [] → (step = name ↔ isName name = true ∧ ¬ LooksEncoded name)

/-- The encoding of a name is a step for it. -/
theorem isStepFor_encode (name : List Char) : IsStepFor name (encode name) where
  encoded := rfl
  empty_iff := encode_eq_nil_iff
  legal := isName_encode
  harmless _ hc := harmless_of_isNameChar (isNameChar_of_mem_encode hc)
  kept_iff := encode_eq_self_iff

/-- An encoded path has a step for each name of the path, in the same order. -/
theorem steps_of_encodePath (path : String) :
    List.Forall₂ IsStepFor (Text.pieces (· == '/') path.toList)
      (Text.pieces (· == '/') (encodePath path).toList) := by
  rw [pieces_encodePath, List.forall₂_map_right_iff, List.forall₂_same]
  exact fun name _ => isStepFor_encode name

end EncodedName

end ContentQuery
