import ContentQuery.Proofs.Number.Digits
import ContentQuery.Proofs.Path
import ContentQuery.Proofs.Statement.EncodedName
import ContentQuery.Statement.XPath
import Mathlib.Data.Set.Function

/-!
# Reading encoded names

An encoded name is read by taking an encoded character wherever one begins. This gives the name
back unless an underscore was kept in it from which on the encoded name reads like an encoded
character: the name has an `x` and the number of a character behind that underscore, and then a
character that is encoded itself, or an underscore behind more than four digits.
-/

namespace ContentQuery

namespace EncodedName

/-! ### Digits -/

/-- The value of a hexadecimal digit, in upper case. -/
def digitValue (c : Char) : ℕ := if c.isDigit then c.toNat - '0'.toNat else c.toNat - 'A'.toNat + 10

/-- The value of hexadecimal digits. -/
def hexValue (digits : List Char) : ℕ := digits.foldl (fun n c => 16 * n + digitValue c) 0

/-- The digits of a number in upper case. -/
def upperDigits (n : ℕ) : List Char := (Nat.toDigits 16 n).map Char.toUpper

/-- A digit has the value that it was written from. -/
theorem digitValue_digit : ∀ n < 16, digitValue (Nat.digitChar n).toUpper = n := by
  decide

/-- The digits of a number are worth that number. -/
theorem hexValue_upperDigits (n : ℕ) : hexValue (upperDigits n) = n := by
  induction n using Nat.strongRecOn with
  | ind n ih =>
    rcases Nat.lt_or_ge n 16 with hlt | hge
    · rw [upperDigits, Nat.toDigits_of_lt_base hlt]
      simp [hexValue, digitValue_digit n hlt]
    · have hbefore := ih (n / 16) (by omega)
      rw [upperDigits, hexValue] at hbefore
      rw [upperDigits, hexValue, Nat.toDigits_of_base_le (by decide) hge, List.map_append,
        List.foldl_append, hbefore]
      simp only [List.map_cons, List.map_nil, List.foldl_cons, List.foldl_nil]
      rw [digitValue_digit (n % 16) (Nat.mod_lt n (by decide)), Nat.div_add_mod]

/-- The digits of a code point are worth it. -/
theorem hexValue_codeDigits (c : Char) : hexValue (codeDigits c) = c.toNat := by
  have hzeros (k : ℕ) : (List.replicate k '0').foldl (fun n c => 16 * n + digitValue c) 0 = 0 := by
    induction k with
    | zero => rfl
    | succ k ih => simpa [List.replicate_succ, digitValue] using ih
  have hdigits := hexValue_upperDigits c.toNat
  rw [hexValue, upperDigits] at hdigits
  simp only [codeDigits, hexValue, List.foldl_append, hzeros, hdigits]

/-- Different characters have different digits. -/
theorem codeDigits_inj {c d : Char} (h : codeDigits c = codeDigits d) : c = d := by
  rw [← Char.toNat_inj, ← hexValue_codeDigits, h, hexValue_codeDigits]

/-- A code point has at least four digits. -/
theorem four_le_length_codeDigits (c : Char) : 4 ≤ (codeDigits c).length := by
  simp only [codeDigits, List.length_append, List.length_replicate]
  omega

/-- It has four digits exactly if its number needs no more. -/
theorem length_codeDigits_eq_four_iff (c : Char) :
    (codeDigits c).length = 4 ↔ c.toNat ≤ 0xFFFF := by
  have hle := Nat.length_toDigits_le_iff (by decide : 1 < 16) (by decide : 0 < 4) (n := c.toNat)
  simp only [codeDigits, List.length_append, List.length_replicate, List.length_map]
  omega

/-- Where a code point has more than four digits, the first one is no zero. -/
theorem head?_codeDigits_ne_zero {c : Char} (h : 0xFFFF < c.toNat) :
    (codeDigits c).head? ≠ some '0' := by
  have hlong : ¬ (Nat.toDigits 16 c.toNat).length ≤ 4 := by
    rw [Nat.length_toDigits_le_iff (by decide) (by decide)]
    omega
  have hpadding : 4 - ((Nat.toDigits 16 c.toNat).map Char.toUpper).length = 0 := by
    rw [List.length_map]
    omega
  have hhead := Text.head?_toDigits_ne_zero (by decide : 1 < 16) (by omega : 0 < c.toNat)
  simp only [codeDigits, hpadding, List.replicate_zero, List.nil_append, List.head?_map]
  intro hzero
  obtain ⟨d, hd, hupper⟩ := Option.map_eq_some_iff.mp hzero
  obtain ⟨n, hn, rfl⟩ := exists_digit_of_mem_toDigits (by decide) (List.mem_of_mem_head? hd)
  have hvalue := digitValue_digit n hn
  rw [hupper] at hvalue
  obtain rfl : 0 = n := hvalue
  exact hhead hd

/-- No digit is an underscore. -/
theorem ne_underscore_of_mem_codeDigits {c d : Char} (h : d ∈ codeDigits c) : d ≠ '_' := by
  have hdigits : ∀ n < 16, (Nat.digitChar n).toUpper ≠ '_' := by decide
  obtain ⟨n, hn, rfl⟩ := exists_digit_of_mem_codeDigits h
  exact hdigits n hn

/-- There is no underscore between the first one of an encoded character and its last one. -/
theorem underscore_not_mem_digits (c : Char) : '_' ∉ 'x' :: codeDigits c := by
  rw [List.mem_cons, not_or]
  exact ⟨by decide, fun hmem => ne_underscore_of_mem_codeDigits hmem rfl⟩

/-! ### Reading -/

/-- The encoded character that a text begins with, and the rest of the text. -/
def readChar? (s : List Char) : Option (Char × List Char) :=
  let c := Char.ofNat (hexValue ((s.drop 2).takeWhile (· != '_')))
  (Text.afterStart? (encodeChar c) s).map (c, ·)

/-- An encoded character is read where it is written. -/
theorem readChar?_eq_some_iff {s rest : List Char} {c : Char} :
    readChar? s = some (c, rest) ↔ s = encodeChar c ++ rest := by
  constructor
  · intro h
    obtain ⟨found, hfound, heq⟩ := Option.map_eq_some_iff.mp h
    rw [Prod.mk.injEq] at heq
    obtain ⟨rfl, rfl⟩ := heq
    exact Text.eq_append_of_afterStart? hfound
  · rintro rfl
    have hdigits : (((encodeChar c ++ rest).drop 2).takeWhile (· != '_')) = codeDigits c := by
      have hrest : ((encodeChar c ++ rest).drop 2) = codeDigits c ++ '_' :: rest := by
        simp [encodeChar]
      rw [hrest]
      refine Text.takeWhile_append (fun d hd => ?_) (by simp)
      simpa using ne_underscore_of_mem_codeDigits hd
    simp only [readChar?, hdigits, hexValue_codeDigits, Char.ofNat_toNat, Text.afterStart?_append,
      Option.map_some]

/-- An encoded character is read at an underscore only. -/
theorem eq_underscore_of_readChar? {c d : Char} {rest more : List Char}
    (h : readChar? (c :: rest) = some (d, more)) : c = '_' := by
  rw [readChar?_eq_some_iff, encodeChar] at h
  exact (List.cons.inj h).1

/-- What is left behind an encoded character is shorter. -/
theorem length_lt_of_readChar? {s rest : List Char} {c : Char}
    (h : readChar? s = some (c, rest)) : rest.length < s.length := by
  rw [readChar?_eq_some_iff.mp h]
  simp only [encodeChar, List.length_append, List.length_cons]
  omega

/-- The name that an encoded name is read as: where an encoded character begins it stands for that
character, and anything else stands for itself. -/
def decode : List Char → List Char
  | [] => []
  | c :: rest =>
    match _h : readChar? (c :: rest) with
    | some (d, more) => d :: decode more
    | none => c :: decode rest
termination_by s => s.length
decreasing_by
  · exact length_lt_of_readChar? _h
  · exact Nat.lt_succ_self _

/-- An encoded character is read. -/
theorem decode_encodeChar_append (c : Char) (rest : List Char) :
    decode (encodeChar c ++ rest) = c :: decode rest := by
  have hread : readChar? (encodeChar c ++ rest) = some (c, rest) := readChar?_eq_some_iff.mpr rfl
  rw [encodeChar, List.cons_append] at hread ⊢
  rw [decode]
  split
  · next d more h =>
    rw [hread] at h
    cases h
    rfl
  · next h =>
    rw [hread] at h
    cases h

/-- Where no encoded character begins, a character stands for itself. -/
theorem decode_cons_of_readChar? {c : Char} {rest : List Char}
    (h : readChar? (c :: rest) = none) : decode (c :: rest) = c :: decode rest := by
  rw [decode]
  split
  · next d more hread =>
    rw [h] at hread
    cases hread
  · rfl

/-- Characters other than underscores stand for themselves. -/
theorem decode_append {s : List Char} (h : '_' ∉ s) (rest : List Char) :
    decode (s ++ rest) = s ++ decode rest := by
  induction s with
  | nil => rfl
  | cons c s ih =>
    obtain ⟨hc, hs⟩ := not_or.mp (mt List.mem_cons.mpr h)
    have hread : readChar? (c :: (s ++ rest)) = none := by
      rw [Option.eq_none_iff_forall_ne_some]
      rintro ⟨d, more⟩ hsome
      exact hc (eq_underscore_of_readChar? hsome).symm
    rw [List.cons_append, decode_cons_of_readChar? hread, ih hs, List.cons_append]

/-! ### Lookalikes -/

/-- A text whose first underscore is kept although the encoded text reads like an encoded character:
behind it are an `x` and the number of a character, and then a character that is encoded, or an
underscore where the number has more than four digits. -/
def Lookalike (s : List Char) : Prop :=
  ∃ d c rest, s = '_' :: 'x' :: (codeDigits d ++ c :: rest) ∧
    (isNameChar c = false ∨ c = '_' ∧ 0xFFFF < d.toNat)

/-- A name in which no lookalike begins. -/
def Readable (s : List Char) : Prop := ∀ t, t <:+ s → ¬ Lookalike t

/-- The number of a character begins like an encoded one if it has four digits and an underscore
follows. -/
theorem startsEncoded_codeDigits_iff (c d : Char) (rest : List Char) :
    startsEncoded ('_' :: 'x' :: (codeDigits d ++ c :: rest)) = true ↔
      c = '_' ∧ d.toNat ≤ 0xFFFF := by
  have hhex : (codeDigits d).all isHexDigit = true := by
    have hdigits : ∀ n < 16, isHexDigit (Nat.digitChar n).toUpper = true := by decide
    rw [List.all_eq_true]
    intro e he
    obtain ⟨n, hn, rfl⟩ := exists_digit_of_mem_codeDigits he
    exact hdigits n hn
  have hplain : ∀ e ∈ codeDigits d, e ≠ '_' := fun e => ne_underscore_of_mem_codeDigits
  rw [← length_codeDigits_eq_four_iff]
  match hcode : codeDigits d, four_le_length_codeDigits d with
  | [w, x, y, z], _ =>
    rw [hcode] at hhex
    by_cases hc : c = '_' <;> simp [startsEncoded, hc, hhex]
  | w :: x :: y :: z :: v :: more, _ =>
    rw [hcode] at hplain
    have hv : v ≠ '_' := hplain v (by simp)
    simp [startsEncoded, hv]

section First

variable {legal : Char → Bool} {c : Char}

/-- A legal character other than an underscore is kept. -/
theorem encodeFirst_plain (hlegal : legal c = true) (hne : c ≠ '_') (rest : List Char) :
    encodeFirst legal c rest = [c] := by
  have hstarts : startsEncoded (c :: rest) = false := by
    unfold startsEncoded
    split
    · next heq => exact absurd (List.cons.inj heq).1 hne
    · rfl
  simp [encodeFirst, hlegal, hstarts]

/-- What is written of any other character begins with an underscore. -/
theorem exists_encodeFirst_marked (h : legal c = false ∨ c = '_') (rest : List Char) :
    ∃ more, encodeFirst legal c rest = '_' :: more := by
  rw [encodeFirst]
  split
  · next hkept =>
    rcases h with hillegal | rfl
    · simp [hillegal] at hkept
    · exact ⟨[], rfl⟩
  · exact ⟨_, rfl⟩

end First

/-- Every character is legal and no underscore, or is not. -/
theorem plain_or_marked (c : Char) :
    (isNameChar c = true ∧ c ≠ '_') ∨ (isNameChar c = false ∨ c = '_') := by
  by_cases hc : c = '_' <;> cases hlegal : isNameChar c <;> simp [hc]

/-- Legal characters other than underscores are kept in front of a rest. -/
theorem encodeRest_append {w : List Char} (hw : ∀ c ∈ w, isNameChar c = true ∧ c ≠ '_')
    (s : List Char) : encodeRest (w ++ s) = w ++ encodeRest s := by
  induction w with
  | nil => rfl
  | cons c w ih =>
    obtain ⟨hlegal, hne⟩ := hw c List.mem_cons_self
    rw [List.cons_append, encodeRest, encodeFirst_plain hlegal hne,
      ih fun d hd => hw d (List.mem_cons_of_mem c hd)]
    rfl

/-- Up to its first underscore an encoded rest is the rest itself, where there comes an underscore
or a character that is encoded. -/
theorem exists_of_encodeRest_eq {s w more : List Char} (hw : '_' ∉ w)
    (h : encodeRest s = w ++ '_' :: more) :
    ∃ c rest, s = w ++ c :: rest ∧ (isNameChar c = false ∨ c = '_') := by
  induction w generalizing s with
  | nil =>
    cases s with
    | nil => cases h
    | cons c rest =>
      rcases plain_or_marked c with ⟨hlegal, hne⟩ | hmarked
      · rw [encodeRest, encodeFirst_plain hlegal hne] at h
        exact absurd (List.cons.inj h).1 hne
      · exact ⟨c, rest, rfl, hmarked⟩
  | cons d w ih =>
    obtain ⟨hd, htail⟩ := not_or.mp (mt List.mem_cons.mpr hw)
    cases s with
    | nil => cases h
    | cons c rest =>
      rcases plain_or_marked c with ⟨hlegal, hne⟩ | hmarked
      · rw [encodeRest, encodeFirst_plain hlegal hne] at h
        obtain ⟨hhead, hbehind⟩ := List.cons.inj h
        obtain ⟨e, more, rfl, he⟩ := ih htail hbehind
        exact ⟨e, more, by rw [hhead, List.cons_append], he⟩
      · obtain ⟨behind, hbehind⟩ := exists_encodeFirst_marked hmarked rest
        rw [encodeRest, hbehind] at h
        exact absurd (List.cons.inj h).1 hd

/-- The digits behind the underscore of a lookalike are kept. -/
theorem encodeRest_codeDigits (d : Char) (s : List Char) :
    encodeRest ('x' :: (codeDigits d ++ s)) = 'x' :: (codeDigits d ++ encodeRest s) := by
  have hplain : ∀ c ∈ 'x' :: codeDigits d, isNameChar c = true ∧ c ≠ '_' := by
    intro c hc
    rcases List.mem_cons.mp hc with rfl | hc
    · exact ⟨by decide, by decide⟩
    · exact ⟨isNameChar_of_mem_codeDigits hc, ne_underscore_of_mem_codeDigits hc⟩
  exact encodeRest_append hplain s

/-- Behind the underscore of a lookalike an encoded character is read. -/
theorem exists_readChar?_lookalike {c : Char} (hc : isNameChar c = false ∨ c = '_') (d : Char)
    (rest : List Char) :
    ∃ more, encodeFirst isNameChar c rest = '_' :: more ∧
      readChar? ('_' :: encodeRest ('x' :: (codeDigits d ++ c :: rest))) =
        some (d, more ++ encodeRest rest) := by
  obtain ⟨more, hmore⟩ := exists_encodeFirst_marked hc rest
  refine ⟨more, hmore, readChar?_eq_some_iff.mpr ?_⟩
  rw [encodeRest_codeDigits, encodeRest, hmore]
  simp [encodeChar]

/-- An encoded character is read at an underscore that is kept only if this is a lookalike. -/
theorem lookalike_of_readChar? {rest more : List Char} {d : Char}
    (hkept : startsEncoded ('_' :: rest) = false)
    (hread : readChar? ('_' :: encodeRest rest) = some (d, more)) : Lookalike ('_' :: rest) := by
  rw [readChar?_eq_some_iff, encodeChar, List.cons_append, List.cons_append, List.append_assoc,
    List.singleton_append] at hread
  obtain ⟨c, behind, rfl, hc⟩ :=
    exists_of_encodeRest_eq (underscore_not_mem_digits d) (List.cons.inj hread).2
  refine ⟨d, c, behind, rfl, hc.imp_right fun hunder => ⟨hunder, ?_⟩⟩
  by_contra hfour
  have hstarts := (startsEncoded_codeDigits_iff c d behind).mpr ⟨hunder, Nat.not_lt.mp hfour⟩
  exact Bool.false_ne_true (hkept.symm.trans hstarts)

/-- The underscore of a lookalike is kept. -/
theorem Lookalike.startsEncoded_eq {s : List Char} (h : Lookalike s) : startsEncoded s = false := by
  obtain ⟨d, c, rest, rfl, hc⟩ := h
  rw [Bool.eq_false_iff, ne_eq, startsEncoded_codeDigits_iff, not_and, Nat.not_le]
  rintro rfl
  rcases hc with hillegal | ⟨-, hlong⟩
  · cases hillegal
  · exact hlong

/-- The digits of an underscore do not begin those of another character and an underscore. -/
theorem codeDigits_append_ne {c : Char} (hc : c ≠ '_') (s rest : List Char) :
    codeDigits c ++ s ≠ codeDigits '_' ++ rest := by
  intro heq
  rcases Nat.lt_or_ge 0xFFFF c.toNat with hlong | hfour
  · have hhead := head?_codeDigits_ne_zero hlong
    obtain ⟨digit, digits, hdigits⟩ :=
      List.exists_cons_of_length_pos (Nat.lt_of_lt_of_le (by decide) (four_le_length_codeDigits c))
    rw [hdigits] at hhead heq
    rw [List.cons_append] at heq
    exact hhead (congrArg some (List.cons.inj heq).1)
  · have hlength : (codeDigits c).length = (codeDigits '_').length := by
      rw [(length_codeDigits_eq_four_iff c).mpr hfour]
      rfl
    exact hc (codeDigits_inj (List.append_inj heq hlength).1)

section First

variable {legal : Char → Bool} {c : Char} {rest : List Char}

/-- Where no lookalike begins, what is written of a character is read as that character. -/
theorem decode_encodeFirst (h : ¬ Lookalike (c :: rest)) :
    decode (encodeFirst legal c rest ++ encodeRest rest) = c :: decode (encodeRest rest) := by
  rw [encodeFirst]
  split
  · next hkept =>
    have hstarts := (Bool.and_eq_true_iff.mp hkept).2
    rw [Bool.not_eq_true'] at hstarts
    rw [List.singleton_append]
    apply decode_cons_of_readChar?
    rw [Option.eq_none_iff_forall_ne_some]
    rintro ⟨d, more⟩ hread
    obtain rfl := eq_underscore_of_readChar? hread
    exact h (lookalike_of_readChar? hstarts hread)
  · exact decode_encodeChar_append c _

/-- Where a lookalike begins, something else is read. -/
theorem decode_encodeFirst_ne (hlegal : legal '_' = true) (h : Lookalike (c :: rest)) :
    decode (encodeFirst legal c rest ++ encodeRest rest) ≠ c :: rest := by
  have hstarts := h.startsEncoded_eq
  obtain ⟨d, e, behind, heq, he⟩ := h
  obtain ⟨rfl, rfl⟩ := List.cons.inj heq
  obtain ⟨more, hmore, hread⟩ := exists_readChar?_lookalike (he.imp_right And.left) d behind
  have hkept : encodeFirst legal '_' ('x' :: (codeDigits d ++ e :: behind)) = ['_'] := by
    simp [encodeFirst, hlegal, hstarts]
  have hdecode := decode_encodeChar_append d (more ++ encodeRest behind)
  rw [← readChar?_eq_some_iff.mp hread] at hdecode
  rw [hkept, List.singleton_append, hdecode]
  intro hsame
  -- Only an underscore could be read in the place of one, and behind its number the digits of
  -- another character would have to go on like that number.
  obtain ⟨rfl, hmoreDecoded⟩ := List.cons.inj hsame
  have hillegal : isNameChar e = false := he.resolve_right fun hlong => absurd hlong.2 (by decide)
  have hencoded : more = 'x' :: (codeDigits e ++ ['_']) := by
    rw [encodeFirst, hillegal] at hmore
    exact (List.cons.inj hmore).2.symm
  have hread := decode_append (underscore_not_mem_digits e) ('_' :: encodeRest behind)
  rw [hencoded, List.cons_append, List.append_assoc, List.singleton_append, ← List.cons_append,
    hread, List.cons_append] at hmoreDecoded
  have hne : e ≠ '_' := by
    rintro rfl
    cases hillegal
  exact codeDigits_append_ne hne _ _ (List.cons.inj hmoreDecoded).2

end First

/-! ### Names -/

/-- A name is readable if no lookalike begins it and the rest is readable. -/
theorem readable_cons_iff {c : Char} {rest : List Char} :
    Readable (c :: rest) ↔ ¬ Lookalike (c :: rest) ∧ Readable rest := by
  constructor
  · intro h
    exact ⟨h _ List.suffix_rfl, fun t ht => h t (ht.trans (List.suffix_cons c rest))⟩
  · rintro ⟨hfirst, hrest⟩ t ht
    rcases List.suffix_cons_iff.mp ht with rfl | ht
    · exact hfirst
    · exact hrest t ht

/-- The empty name is readable. -/
theorem readable_nil : Readable [] := by
  rintro t ht ⟨d, c, rest, rfl, -⟩
  exact absurd ht (by simp)

/-- A character is written and read back if no lookalike begins with it and the rest of the name is
written and read back. -/
theorem decode_encodeFirst_iff {legal : Char → Bool} (hlegal : legal '_' = true) {c : Char}
    {rest : List Char} (hrest : decode (encodeRest rest) = rest ↔ Readable rest) :
    decode (encodeFirst legal c rest ++ encodeRest rest) = c :: rest ↔ Readable (c :: rest) := by
  rw [readable_cons_iff]
  by_cases hlook : Lookalike (c :: rest)
  · exact ⟨fun h => absurd h (decode_encodeFirst_ne hlegal hlook), fun h => absurd hlook h.1⟩
  · rw [decode_encodeFirst hlook, List.cons.injEq]
    simp only [true_and, hrest, hlook, not_false_eq_true]

/-- The rest of a name is read back if it is readable. -/
theorem decode_encodeRest_iff (s : List Char) : decode (encodeRest s) = s ↔ Readable s := by
  induction s with
  | nil => simp [encodeRest, decode, readable_nil]
  | cons c rest ih => exact decode_encodeFirst_iff rfl ih

/-- A name is read back if it is readable. -/
theorem decode_encode_iff (s : List Char) : decode (encode s) = s ↔ Readable s := by
  cases s with
  | nil => simp [encode, decode, readable_nil]
  | cons c rest => exact decode_encodeFirst_iff rfl (decode_encodeRest_iff rest)

/-- Readable names have different encodings. -/
theorem injOn_encode : Set.InjOn encode {name | Readable name} := by
  intro name hname other hother h
  rw [← (decode_encode_iff name).mpr hname, h, (decode_encode_iff other).mpr hother]

/-! ### Paths -/

/-- The names in an encoded path are the encoded names of the path. -/
theorem pieces_encodePath (path : String) :
    Text.pieces (· == '/') (encodePath path).toList =
      (Text.pieces (· == '/') path.toList).map encode := by
  obtain ⟨piece, others, hpieces⟩ := Text.exists_pieces_eq_cons (· == '/') path.toList
  rw [encodePath, String.toList_ofList]
  refine Text.pieces_intercalate (by simp [hpieces]) ?_
  intro name hname hslash
  obtain ⟨piece, -, rfl⟩ := List.mem_map.mp hname
  cases isNameChar_of_mem_encode hslash

/-- Every name in a path is readable. -/
def ReadablePath (path : String) : Prop :=
  ∀ name ∈ Text.pieces (· == '/') path.toList, Readable name

/-- Paths of readable names have different encodings. -/
theorem injOn_encodePath : Set.InjOn encodePath {path | ReadablePath path} := by
  intro path hpath other hother h
  have hread (path : String) (hpath : ReadablePath path) :
      ((Text.pieces (· == '/') path.toList).map encode).map decode =
        Text.pieces (· == '/') path.toList := by
    have heach : ∀ name ∈ Text.pieces (· == '/') path.toList, (decode ∘ encode) name = id name :=
      fun name hname => (decode_encode_iff name).mpr (hpath name hname)
    rw [List.map_map, List.map_congr_left heach, List.map_id]
  have hpieces := congrArg (fun p => (Text.pieces (· == '/') p.toList).map decode) h
  simp only [pieces_encodePath] at hpieces
  rw [hread path hpath, hread other hother] at hpieces
  have hchars := Text.flatMap_pieces '/' path.toList
  rw [hpieces, Text.flatMap_pieces] at hchars
  exact (String.toList_injective (List.cons.inj hchars).2).symm

/-- Paths of readable names make different scopes. -/
theorem injOn_scopeSteps :
    Set.InjOn (fun path => XPath.scopeSteps (some path)) {path | ReadablePath path} := by
  intro path hpath other hother h
  refine injOn_encodePath hpath hother ?_
  simpa only [XPath.scopeSteps, ← String.toList_inj, String.toList_append,
    List.append_cancel_right_eq, List.append_cancel_left_eq] using h

/-! ### Reading back -/

/-- Whatever names there are, reading undoes their encoding exactly if no lookalike begins anywhere
in them. Then different names have different encodings, and different paths of these names make
different scopes. -/
theorem reads_back_iff (names : Set (List Char)) :
    ((∀ name ∈ names, decode (encode name) = name) ↔ ∀ name ∈ names, Readable name) ∧
    ((∀ name ∈ names, Readable name) →
      Set.InjOn encode names ∧
      Set.InjOn (fun path => XPath.scopeSteps (some path))
        {path | ∀ name ∈ Text.pieces (· == '/') path.toList, name ∈ names}) := by
  refine ⟨forall₂_congr fun name _ => decode_encode_iff name, fun h => ⟨?_, ?_⟩⟩
  · exact injOn_encode.mono h
  · exact injOn_scopeSteps.mono fun path hpath name hname => h name (hpath name hname)

/-- Two names may have one encoding, where the number of an encoded character goes on with another
one or with an underscore that stands behind five digits; so no reading finds both names, and paths
with them make one scope. -/
theorem encodings_collide :
    encode "_x0020 b".toList = encode " x0020_b".toList ∧
    encode "_x1F600_".toList = encode "😀".toList ∧
    XPath.scopeSteps (some "/_x0020 b") = XPath.scopeSteps (some "/ x0020_b") ∧
    ¬ ∃ read : List Char → List Char, ∀ name, read (encode name) = name := by
  have hshort : encode "_x0020 b".toList = encode " x0020_b".toList := by decide +kernel
  refine ⟨hshort, by decide +kernel, by decide +kernel, ?_⟩
  rintro ⟨read, hread⟩
  have hsame := hread "_x0020 b".toList
  rw [hshort, hread] at hsame
  exact absurd hsame (by decide)

end EncodedName

end ContentQuery
