import ContentQuery.Json.Decode
import ContentQuery.Json.Writer
import ContentQuery.Proofs.Json.Depth

/-!
# Written documents are read back

The compact text of a document is cut into tokens and put together to that document again. What
follows in the text is left to be read, unless it would go on with the last word.
-/

namespace ContentQuery

namespace Json

section Words

variable {word rest : List Char}

/-- A character of a word is neither blank nor a quote. -/
theorem begin_of_isWordChar {c : Char} (h : isWordChar c = true) :
    begin c = ([], some (.word [c])) := by
  have hquote : c ≠ '"' := Text.ne_of_kind h rfl
  have hspace : isSpace c = false := by
    have hblank : c ≠ ' ' := Text.ne_of_kind h rfl
    have hline : c ≠ '\n' := Text.ne_of_kind h rfl
    have htab : c ≠ '\t' := Text.ne_of_kind h rfl
    have hreturn : c ≠ '\r' := Text.ne_of_kind h rfl
    simp [isSpace, hblank, hline, htab, hreturn]
  simp [begin, hspace, hquote, h]

/-- A word is read up to a character that cannot be part of it. -/
theorem tokensFrom_word (read : List Char) (hword : ∀ c ∈ word, isWordChar c = true)
    (hrest : ∀ c ∈ rest.head?, isWordChar c = false) :
    tokensFrom (.word read) (word ++ rest) =
      wordToken (read.reverse ++ word) :: tokensFrom .between rest := by
  induction word generalizing read with
  | nil =>
    rw [List.append_nil, List.nil_append]
    cases rest with
    | nil => rfl
    | cons c rest => simp [tokensFrom, hrest c rfl]
  | cons c word ih =>
    have hc := hword c List.mem_cons_self
    have hmore := ih (c :: read) fun d hd => hword d (List.mem_cons_of_mem c hd)
    rw [List.cons_append, tokensFrom, if_pos hc, hmore, List.reverse_cons, List.append_assoc,
      List.singleton_append]

/-- A word between tokens is one token. -/
theorem tokensFrom_between_word (hne : word ≠ []) (hword : ∀ c ∈ word, isWordChar c = true)
    (hrest : ∀ c ∈ rest.head?, isWordChar c = false) :
    tokensFrom .between (word ++ rest) = wordToken word :: tokensFrom .between rest := by
  obtain ⟨c, word, rfl⟩ := List.exists_cons_of_ne_nil hne
  have hmore := fun d hd => hword d (List.mem_cons_of_mem c hd)
  rw [List.cons_append, tokensFrom, begin_of_isWordChar (hword c List.mem_cons_self)]
  exact tokensFrom_word [c] hmore hrest

/-- An integer is a word, and its token is that number. -/
theorem tokensFrom_integer (n : ℤ) (hrest : ∀ c ∈ rest.head?, isWordChar c = false) :
    tokensFrom .between ((toString n).toList ++ rest) =
      .leaf (.ofInt n) :: tokensFrom .between rest := by
  have hdigits := IsDigits.toDigits n.natAbs
  have hword : ∀ c ∈ (toString n).toList, isWordChar c = true := by
    intro c hc
    rw [Double.toList_toString] at hc
    rcases List.mem_append.mp hc with hc | hc
    · split at hc
      · obtain rfl := List.mem_singleton.mp hc
        rfl
      · cases hc
    · simp [isWordChar, Char.isAlphanum, hdigits.all c hc]
  have hparts := numberParts?_toString n
  have hne : (toString n).toList ≠ [] := by
    intro hnil
    rw [hnil] at hparts
    cases hparts
  have htoken : wordToken (toString n).toList = .leaf (.ofInt n) := by
    unfold wordToken
    split
    · next heq => rw [heq] at hparts; cases hparts
    · split
      · next heq => rw [heq] at hparts; cases hparts
      · split
        · next heq => rw [heq] at hparts; cases hparts
        · rw [hparts]
          rfl
  rw [tokensFrom_between_word hne hword hrest, htoken]

end Words

section Texts

/-- The part of a text by which a character is written: control characters without a letter of
their own are written as code units. -/
def writtenPart (c : Char) : TextPart :=
  if c.toNat < 32 ∧ c ∉ ['\x08', '\x0c', '\n', '\r', '\t'] then .unit c.toNat else .char c

/-- The four digits by which a control character is written. -/
theorem controlDigits {n : ℕ} (h : n < 32) :
    List.replicate (4 - (Nat.toDigits 16 n).length) '0' ++ Nat.toDigits 16 n =
      ['0', '0', (n / 16).digitChar, (n % 16).digitChar] ∧
    hexValue? (n / 16).digitChar ≠ none ∧ hexValue? (n % 16).digitChar ≠ none ∧
    hexDigitsValue [(n % 16).digitChar, (n / 16).digitChar, '0', '0'] = n := by
  revert n
  decide

/-- The digits of a control character are read as its number. -/
theorem tokensFrom_controlDigits (read : List TextPart) {n : ℕ} (h : n < 32) (rest : List Char) :
    tokensFrom (.unit read [])
        (List.replicate (4 - (Nat.toDigits 16 n).length) '0' ++ Nat.toDigits 16 n ++ rest) =
      tokensFrom (.text (.unit n :: read)) rest := by
  obtain ⟨hdigits, hfirst, hsecond, hvalue⟩ := controlDigits h
  have hzero : hexValue? '0' ≠ none := by decide
  rw [hdigits]
  simp [tokensFrom, hzero, hfirst, hsecond, hvalue]

/-- A written character is read as its part of the text. -/
theorem tokensFrom_escapedChar (read : List TextPart) (c : Char) (rest : List Char) :
    tokensFrom (.text read) (escapedChar c ++ rest) =
      tokensFrom (.text (writtenPart c :: read)) rest := by
  by_cases hletter : c ∈ ['"', '\\', '\x08', '\x0c', '\n', '\r', '\t']
  · simp only [List.mem_cons, List.not_mem_nil, or_false] at hletter
    rcases hletter with rfl | rfl | rfl | rfl | rfl | rfl | rfl <;> rfl
  · simp only [List.mem_cons, List.not_mem_nil, or_false, not_or] at hletter
    obtain ⟨hquote, hslash, hb, hf, hn, hr, ht⟩ := hletter
    simp only [escapedChar, if_neg hquote, if_neg hslash, if_neg hb, if_neg hf, if_neg hn,
      if_neg hr, if_neg ht]
    split
    · next hlow =>
      have hpart : writtenPart c = .unit c.toNat := by
        simp [writtenPart, hlow, hb, hf, hn, hr, ht]
      rw [hpart, ← tokensFrom_controlDigits read hlow rest]
      rfl
    · next hhigh =>
      have hpart : writtenPart c = .char c := by simp [writtenPart, hhigh]
      simp [tokensFrom, hquote, hslash, hhigh, hpart]

/-- A code unit of a control character is that character. -/
theorem assemble_unit {n : ℕ} (h : n < 32) (rest : List TextPart) :
    assemble (.unit n :: rest) = (assemble rest).map (Char.ofNat n :: ·) := by
  have hfirst : isFirstHalf n = false := by simp [isFirstHalf]; omega
  have hsecond : isSecondHalf n = false := by simp [isSecondHalf]; omega
  cases rest with
  | nil => simp [assemble, hfirst, hsecond]
  | cons part rest => cases part <;> simp [assemble, hfirst, hsecond]

/-- The parts by which a text is written are put together to that text. -/
theorem assemble_map_writtenPart (s : List Char) : assemble (s.map writtenPart) = some s := by
  induction s with
  | nil => rfl
  | cons c s ih =>
    rw [List.map_cons, writtenPart]
    split
    · next h => rw [assemble_unit h.1, ih, Option.map_some, Char.ofNat_toNat]
    · rw [assemble, ih, Option.map_some]

/-- The characters of a text are read up to the quote that ends it. -/
theorem tokensFrom_text (read : List TextPart) (s rest : List Char) :
    tokensFrom (.text read) (s.flatMap escapedChar ++ '"' :: rest) =
      .leaf (.text ((assemble (read.reverse ++ s.map writtenPart)).map String.ofList)) ::
        tokensFrom .between rest := by
  induction s generalizing read with
  | nil =>
    rw [List.map_nil, List.append_nil]
    rfl
  | cons c s ih =>
    rw [List.flatMap_cons, List.append_assoc, tokensFrom_escapedChar, ih, List.reverse_cons,
      List.append_assoc, List.singleton_append, List.map_cons]

/-- A written text is one token. -/
theorem tokensFrom_writeText (s : String) (rest : List Char) :
    tokensFrom .between ((writeText s).toList ++ rest) =
      .leaf (.text (some s)) :: tokensFrom .between rest := by
  have htext : (writeText s).toList ++ rest =
      '"' :: (s.toList.flatMap escapedChar ++ '"' :: rest) := by simp [writeText]
  have hread := tokensFrom_text [] s.toList rest
  rw [List.reverse_nil, List.nil_append, assemble_map_writtenPart, Option.map_some,
    String.ofList_toList] at hread
  rw [htext]
  exact hread

end Texts

section Documents

/-- Takes the tokens of a text. -/
def Progress.takeText (p : Progress) (s : List Char) : Progress :=
  (tokensFrom .between s).foldl Progress.take p

/-- A character that is a token is taken as that token. -/
theorem takeText_mark (p : Progress) {c : Char} {token : Token}
    (h : begin c = ([token], some .between)) (rest : List Char) :
    p.takeText (c :: rest) = (p.take token).takeText rest := by
  rw [Progress.takeText, tokensFrom, h]
  rfl

/-- A written text is taken as that text. -/
theorem takeText_writeText (p : Progress) (s : String) (rest : List Char) :
    p.takeText ((writeText s).toList ++ rest) =
      (p.take (.leaf (.text (some s)))).takeText rest := by
  rw [Progress.takeText, tokensFrom_writeText]
  rfl

/-- The text of a document is taken as that document wherever a value is due. -/
def IsTaken (j : Json) : Prop :=
  ∀ first frames (rest : List Char), (∀ c ∈ rest.head?, isWordChar c = false) →
    (Progress.value first frames).takeText ((compact j).toList ++ rest) =
      (Progress.place j frames).takeText rest

/-- A document of one token is taken. -/
theorem isTaken_of_token {j : Json} (h : ∀ rest : List Char,
    (∀ c ∈ rest.head?, isWordChar c = false) →
      tokensFrom .between ((compact j).toList ++ rest) = .leaf j :: tokensFrom .between rest) :
    IsTaken j := by
  intro first frames rest hrest
  rw [Progress.takeText, h rest hrest]
  rfl

/-- Items are written one by one. -/
@[simp] theorem compactItems_eq (items : List Json) : compactItems items = items.map compact := by
  induction items with
  | nil => rfl
  | cons item rest ih => simp [compactItems, ih]

/-- The items of an array are taken behind those that it has, up to its end. -/
theorem takeText_items {items : List Json} (hne : items ≠ []) (h : ∀ item ∈ items, IsTaken item)
    (first : Bool) (done : List Json) (frames : List Frame) (rest : List Char) :
    (Progress.value first (.array done :: frames)).takeText
        ((Text.joinWith "," (items.map compact)).toList ++ ']' :: rest) =
      (Progress.place (.array (done.reverse ++ items)) frames).takeText rest := by
  induction items generalizing first done with
  | nil => exact absurd rfl hne
  | cons item others ih =>
    have hitem := h item List.mem_cons_self first (.array done :: frames)
    cases others with
    | nil =>
      rw [List.map_singleton, Text.joinWith, hitem _ (by simp [isWordChar]),
        takeText_mark (c := ']') _ rfl, ← List.reverse_cons]
      rfl
    | cons other others =>
      have hothers := ih (List.cons_ne_nil other others)
        (fun j hj => h j (List.mem_cons_of_mem item hj)) false (item :: done)
      have htext : (Text.joinWith "," ((item :: other :: others).map compact)).toList ++
          ']' :: rest = (compact item).toList ++
            ',' :: ((Text.joinWith "," ((other :: others).map compact)).toList ++ ']' :: rest) := by
        simp [Text.joinWith]
      rw [List.reverse_cons, List.append_assoc, List.singleton_append] at hothers
      rw [htext, hitem _ (by simp [isWordChar]), takeText_mark (c := ',') _ rfl]
      exact hothers

/-- A member as it is written: its key, a colon and its value. -/
def compactMember (m : String × Json) : String := writeText m.1 ++ ":" ++ compact m.2

/-- An object is written member by member. -/
theorem compact_record (members : List (String × Json)) :
    compact (record members) =
      "\x7b" ++ Text.joinWith "," (members.map compactMember) ++ "\x7d" := by
  have hmembers : compactMembers (members.map fun m => (some m.1, m.2)) =
      members.map compactMember := by
    induction members with
    | nil => rfl
    | cons member rest ih => exact congrArg (compactMember member :: ·) ih
  rw [record, compact, hmembers]

/-- A member is taken where a key is due. -/
theorem takeText_member {m : String × Json} (h : IsTaken m.2) (first : Bool)
    (done : List (Option String × Json)) (frames : List Frame) (rest : List Char)
    (hrest : ∀ c ∈ rest.head?, isWordChar c = false) :
    (Progress.key first done frames).takeText ((compactMember m).toList ++ rest) =
      (Progress.afterMember ((some m.1, m.2) :: done) frames).takeText rest := by
  have hvalue := h false (.member done (some m.1) :: frames) rest hrest
  have htext : (compactMember m).toList ++ rest =
      (writeText m.1).toList ++ ':' :: ((compact m.2).toList ++ rest) := by
    simp [compactMember]
  rw [htext, takeText_writeText, takeText_mark (c := ':') _ rfl]
  exact hvalue

/-- The members of an object are taken behind those that it has, up to its end. -/
theorem takeText_members {members : List (String × Json)} (hne : members ≠ [])
    (h : ∀ m ∈ members, IsTaken m.2) (first : Bool) (done : List (Option String × Json))
    (frames : List Frame) (rest : List Char) :
    (Progress.key first done frames).takeText
        ((Text.joinWith "," (members.map compactMember)).toList ++ '\x7d' :: rest) =
      (Progress.place (.object (done.reverse ++ members.map fun m => (some m.1, m.2)))
        frames).takeText rest := by
  induction members generalizing first done with
  | nil => exact absurd rfl hne
  | cons member others ih =>
    have hmember := takeText_member (h member List.mem_cons_self) first done frames
    cases others with
    | nil =>
      rw [List.map_singleton, Text.joinWith, hmember _ (by simp [isWordChar]),
        takeText_mark (c := '\x7d') _ rfl, List.map_singleton, ← List.reverse_cons]
      rfl
    | cons other others =>
      have hothers := ih (List.cons_ne_nil other others)
        (fun m hm => h m (List.mem_cons_of_mem member hm)) false ((some member.1, member.2) :: done)
      have htext : (Text.joinWith "," ((member :: other :: others).map compactMember)).toList ++
          '\x7d' :: rest = (compactMember member).toList ++
            ',' :: ((Text.joinWith "," ((other :: others).map compactMember)).toList ++
              '\x7d' :: rest) := by
        simp [Text.joinWith]
      rw [List.reverse_cons, List.append_assoc, List.singleton_append] at hothers
      rw [htext, hmember _ (by simp [isWordChar]), takeText_mark (c := ',') _ rfl]
      exact hothers

/-- The text of a document that a writer makes is taken as that document. -/
theorem Plain.isTaken {j : Json} (h : j.Plain) : IsTaken j := by
  induction h with
  | null =>
    exact isTaken_of_token fun rest =>
      tokensFrom_between_word (by decide) (List.all_eq_true.mp rfl)
  | boolean b =>
    cases b <;>
      exact isTaken_of_token fun rest =>
        tokensFrom_between_word (by decide) (List.all_eq_true.mp rfl)
  | @integer n _ =>
    refine isTaken_of_token fun rest hrest => ?_
    have htext : (compact (.ofInt n)).toList = (toString n).toList := String.toList_ofList
    rw [htext, tokensFrom_integer n hrest]
  | text s => exact isTaken_of_token fun rest _ => tokensFrom_writeText s rest
  | @array items _ ih =>
    intro first frames rest _
    have htext : (compact (.array items)).toList ++ rest =
        '[' :: ((Text.joinWith "," (items.map compact)).toList ++ ']' :: rest) := by
      simp [compact]
    rw [htext, takeText_mark (c := '[') _ rfl]
    cases items with
    | nil => exact takeText_mark (c := ']') _ rfl rest
    | cons item others => exact takeText_items (List.cons_ne_nil item others) ih true [] frames rest
  | @record members _ ih =>
    intro first frames rest _
    have htext : (compact (.record members)).toList ++ rest =
        '\x7b' :: ((Text.joinWith "," (members.map compactMember)).toList ++ '\x7d' :: rest) := by
      simp [compact_record]
    rw [htext, takeText_mark (c := '\x7b') _ rfl]
    cases members with
    | nil => exact takeText_mark (c := '\x7d') _ rfl rest
    | cons member others =>
      exact takeText_members (List.cons_ne_nil member others) ih true [] frames rest

/-- A document that a writer makes is read back from its compact text, behind which nothing
follows. -/
theorem ofText_compact {j : Json} (h : j.Plain) : ofText (compact j) = ⟨j, true⟩ := by
  have hread := h.isTaken false [] [] (by simp)
  rw [List.append_nil] at hread
  rw [ofText, tokens]
  exact congrArg Progress.finish hread

/-- What is read from a written document is what is read from the document itself. -/
theorem decode_compact {α : Type} (read : Json → Read α) {j : Json} (h : j.Plain) :
    decode read (compact j) = read j := by
  rw [decode, ofText_compact h]
  exact bind_pure (read j)

end Documents

end Json

end ContentQuery
