import ContentQuery.Proofs.Number.Digits
import ContentQuery.Proofs.Path
import ContentQuery.Repository.Matcher
import Mathlib.Data.List.Induction
import Mathlib.Data.List.TakeWhile

/-!
# Words of a text

The pieces of a text are its stretches without separators that reach from one separator, or an end
of the text, to the next. Words are the pieces that are not empty, in lower case. So a character
that is part of no word can stand between two texts, and the words of both are still the same.
-/

namespace ContentQuery.Text

variable {separates : Char → Bool}

/-- A stretch of a text without separators, between separators or the ends of the text. -/
def IsPiece (separates : Char → Bool) (s piece : List Char) : Prop :=
  ∃ before after, s = before ++ piece ++ after ∧ (∀ c ∈ piece, separates c = false) ∧
    (∀ c ∈ before.getLast?, separates c = true) ∧ ∀ c ∈ after.head?, separates c = true

/-- A word of a text: a piece of it between characters that are part of no word, in lower case. -/
def IsWord (s word : List Char) : Prop :=
  ∃ run, IsPiece (fun c => !isWordChar c) s run ∧ run ≠ [] ∧ lowercase run = word

/-- The first piece goes up to the first separator, and the others begin behind a separator each. -/
theorem exists_pieces (separates : Char → Bool) (s : List Char) :
    ∃ others, pieces separates s = s.takeWhile (!separates ·) :: others ∧
      ∀ piece, piece ∈ others ↔
        ∃ c rest, c :: rest <:+ s ∧ separates c = true ∧ rest.takeWhile (!separates ·) = piece := by
  -- The first piece is kept apart: a character before the text makes it longer, or a new one.
  induction s with
  | nil => exact ⟨[], rfl, by simp⟩
  | cons c s ih =>
    obtain ⟨others, hpieces, hothers⟩ := ih
    cases hc : separates c with
    | true =>
      refine ⟨pieces separates s, by simp [pieces, hc], fun piece => ?_⟩
      rw [hpieces, List.mem_cons, hothers]
      constructor
      · rintro (rfl | ⟨d, rest, hsuffix, hd, hrest⟩)
        · exact ⟨c, s, List.suffix_rfl, hc, rfl⟩
        · exact ⟨d, rest, hsuffix.trans (List.suffix_cons c s), hd, hrest⟩
      · rintro ⟨d, rest, hsuffix, hd, rfl⟩
        rcases List.suffix_cons_iff.mp hsuffix with heq | hsuffix
        · exact .inl (by rw [(List.cons.inj heq).2])
        · exact .inr ⟨d, rest, hsuffix, hd, rfl⟩
    | false =>
      refine ⟨others, by simp [pieces, hc, hpieces], fun piece => ?_⟩
      rw [hothers]
      constructor
      · rintro ⟨d, rest, hsuffix, hd, hrest⟩
        exact ⟨d, rest, hsuffix.trans (List.suffix_cons c s), hd, hrest⟩
      · rintro ⟨d, rest, hsuffix, hd, hrest⟩
        rcases List.suffix_cons_iff.mp hsuffix with heq | hsuffix
        · obtain rfl := (List.cons.inj heq).1
          rw [hc] at hd
          cases hd
        · exact ⟨d, rest, hsuffix, hd, hrest⟩

/-- What goes up to the first separator has none and stands before one or the end. -/
theorem takeWhile_eq_iff {s piece : List Char} :
    s.takeWhile (!separates ·) = piece ↔ ∃ after, s = piece ++ after ∧
      (∀ c ∈ piece, separates c = false) ∧ ∀ c ∈ after.head?, separates c = true := by
  constructor
  · rintro rfl
    refine ⟨s.dropWhile (!separates ·), List.takeWhile_append_dropWhile.symm, fun c hc => ?_, ?_⟩
    · simpa using List.mem_takeWhile_imp hc
    · intro c hc
      have hfirst := List.head?_dropWhile_not (!separates ·) s
      rw [Option.mem_def.mp hc] at hfirst
      simpa using hfirst
  · rintro ⟨after, rfl, hpiece, hafter⟩
    exact takeWhile_append (fun c hc => by simp [hpiece c hc]) fun c hc => by simp [hafter c hc]

/-- The pieces of a text are its stretches between separators. -/
theorem mem_pieces_iff {s piece : List Char} :
    piece ∈ pieces separates s ↔ IsPiece separates s piece := by
  obtain ⟨others, hpieces, hothers⟩ := exists_pieces separates s
  rw [hpieces, List.mem_cons, hothers]
  constructor
  · rintro (heq | ⟨c, rest, ⟨before, rfl⟩, hc, heq⟩)
    · obtain ⟨after, hs, hpiece, hafter⟩ := takeWhile_eq_iff.mp heq.symm
      exact ⟨[], after, hs, hpiece, nofun, hafter⟩
    · obtain ⟨after, rfl, hpiece, hafter⟩ := takeWhile_eq_iff.mp heq
      exact ⟨before ++ [c], after, by simp, hpiece, by simpa using hc, hafter⟩
  · rintro ⟨before, after, rfl, hpiece, hbefore, hafter⟩
    have hfirst : (piece ++ after).takeWhile (!separates ·) = piece :=
      takeWhile_eq_iff.mpr ⟨after, rfl, hpiece, hafter⟩
    cases before using List.reverseRecOn with
    | nil => exact .inl hfirst.symm
    | append_singleton before c =>
      exact .inr ⟨c, piece ++ after, ⟨before, by simp⟩, hbefore c (by simp), hfirst⟩

/-- The pieces of a text together are its characters that are no separators. -/
theorem flatten_pieces (separates : Char → Bool) (s : List Char) :
    (pieces separates s).flatten = s.filter (!separates ·) := by
  induction s with
  | nil => rfl
  | cons c s ih =>
    obtain ⟨piece, others, hpieces⟩ := exists_pieces_eq_cons separates s
    rw [hpieces] at ih
    cases hc : separates c with
    | true => simp [pieces, hc, hpieces, ← ih]
    | false => simp [pieces, hc, hpieces, ← ih]

/-- The words of a text are its stretches of word characters, in lower case. -/
theorem mem_words_iff {s word : List Char} : word ∈ words s ↔ IsWord s word := by
  simp [words, mem_pieces_iff, IsWord, and_assoc]

/-- A text has no words if none of its characters can be part of one. -/
theorem words_eq_nil_iff {s : List Char} : words s = [] ↔ ∀ c ∈ s, isWordChar c = false := by
  have hflatten := flatten_pieces (fun c => !isWordChar c) s
  calc words s = [] ↔ ∀ piece ∈ pieces (fun c => !isWordChar c) s, piece = [] := by simp [words]
    _ ↔ s.filter isWordChar = [] := by
        rw [← List.flatten_eq_nil_iff, hflatten]
        simp
    _ ↔ ∀ c ∈ s, isWordChar c = false := by simp

/-- A text has a word if it has a character of one. -/
theorem exists_isWord_iff {s : List Char} :
    (∃ word, IsWord s word) ↔ ∃ c ∈ s, isWordChar c = true := by
  have hwords : (∃ word, IsWord s word) ↔ words s ≠ [] := by
    simp [← mem_words_iff, List.eq_nil_iff_forall_not_mem]
  rw [hwords, ne_eq, words_eq_nil_iff]
  simp

/-- A character that is part of no word separates the words of two texts. -/
theorem words_append {c : Char} (h : isWordChar c = false) (s t : List Char) :
    words (s ++ c :: t) = words s ++ words t := by
  rw [words, pieces_append (by rw [h]; rfl), List.filter_append, List.map_append]
  rfl

end ContentQuery.Text
