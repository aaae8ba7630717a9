import ContentQuery.Criterion.Basic
import ContentQuery.Proofs.Path
import Mathlib.Data.List.Forall2

/-!
# Reading conditions with connectives

Conditions of both languages are chains of units: atoms, groups in parentheses and negated groups,
with words between them. A reader lets one of the two connectives bind tighter. A chain of one kind
of word, with every unit that is no atom in parentheses, is read back as one junction of its units,
whichever connective binds tighter.
-/

namespace ContentQuery

namespace Text

/-- Joined texts are the first one and the others behind a separator. -/
theorem joinWith_cons_cons (separator s t : String) (rest : List String) :
    joinWith separator (s :: t :: rest) = s ++ separator ++ joinWith separator (t :: rest) := rfl

end Text

/-- The parts of a language of conditions, and the trees that are read. -/
structure Grammar (α : Type) where
  /-- The word between two parts of a junction. -/
  word : Connective → String
  /-- What a negated group begins with. -/
  negation : String
  /-- The tree of a negated group. -/
  negate : α → α
  /-- The tree of a chain. -/
  junction : Connective → List α → α
  /-- Reads an atom and leaves the rest. -/
  atom : List Char → Option (α × List Char)

/-- The other connective. -/
def Connective.other : Connective → Connective
  | .and => .or
  | .or => .and

namespace Grammar

variable {α : Type} (g : Grammar α)

/-- Reads a group up to its closing parenthesis. -/
def readGroup (inner : List Char → Option (α × List Char)) (s : List Char) :
    Option (α × List Char) :=
  match inner s with
  | some (c, ')' :: rest) => some (c, rest)
  | _ => none

/-- Reads an atom, a group or a negated group. -/
def readUnit (inner : List Char → Option (α × List Char)) (s : List Char) :
    Option (α × List Char) :=
  match Text.afterStart? g.negation.toList s with
  | some rest => (readGroup inner rest).map fun (c, rest) => (g.negate c, rest)
  | none =>
    match s with
    | '(' :: rest => readGroup inner rest
    | _ => g.atom s

/-- Reads further parts, each behind the word of the connective. -/
def readMore (k : Connective) (part : List Char → Option (α × List Char)) :
    ℕ → List Char → Option (List α × List Char)
  | 0, _ => none
  | fuel + 1, s =>
    match Text.afterStart? (g.word k).toList s with
    | none => some ([], s)
    | some rest => do
      let (c, rest) ← part rest
      let (others, rest) ← readMore k part fuel rest
      return (c :: others, rest)

/-- Reads a chain of parts; a single part is no junction. -/
def readChain (k : Connective) (part : List Char → Option (α × List Char)) (fuel : ℕ)
    (s : List Char) : Option (α × List Char) := do
  let (c, rest) ← part s
  let (others, rest) ← g.readMore k part fuel rest
  return (if others.isEmpty then c else g.junction k (c :: others), rest)

/-- Reads a condition, with one connective binding tighter than the other. The fuel bounds how deep
groups are nested and how long chains are. -/
def read (tight : Connective) : ℕ → List Char → Option (α × List Char)
  | 0, _ => none
  | fuel + 1, s =>
    g.readChain tight.other (g.readChain tight (g.readUnit (read tight fuel)) (fuel + 1))
      (fuel + 1) s

/-- What words and atoms of a language have to be for its chains to be read. -/
structure Lawful : Prop where
  blank : ∀ k, ∃ c more, (g.word k).toList = ' ' :: c :: more ∧ c.isAlpha = true
  apart : ∀ k rest, Text.afterStart? (g.word k.other).toList ((g.word k).toList ++ rest) = none

/-- What may stand behind a unit: nothing, a blank and a letter, or the end of a group or of a
filter. -/
def Boundary : List Char → Prop
  | [] => True
  | ' ' :: c :: _ => c.isAlpha = true
  | c :: _ => c = ')' ∨ c = ']'

/-- The first character of what may stand behind a unit. -/
theorem Boundary.head {rest : List Char} (h : Boundary rest) :
    ∀ c ∈ rest.head?, c = ' ' ∨ c = ')' ∨ c = ']' := by
  intro c hc
  unfold Boundary at h
  split at h
  · cases hc
  · exact .inl (Option.some.inj hc).symm
  · obtain rfl := Option.some.inj hc
    exact .inr h

/-- No chain goes on in a text. -/
def Ends (rest : List Char) : Prop := ∀ k, Text.afterStart? (g.word k).toList rest = none

/-- A text is read as a unit, whatever the reader of groups can do that has the text's length as
fuel. -/
def ReadsUnit (tight : Connective) (s : String) (c : α) : Prop :=
  ∀ fuel rest, s.toList.length ≤ fuel → Boundary rest →
    g.readUnit (g.read tight fuel) (s.toList ++ rest) = some (c, rest)

/-- A text is read as a condition where no chain goes on. -/
def Reads (tight : Connective) (s : String) (c : α) : Prop :=
  ∀ fuel rest, s.toList.length < fuel → Boundary rest → g.Ends rest →
    g.read tight fuel (s.toList ++ rest) = some (c, rest)

/-- A text is an atom: it is read as one, and begins neither like a group nor like a negation. -/
structure IsAtom (s : String) (c : α) : Prop where
  plain : ∀ rest, Text.afterStart? g.negation.toList (s.toList ++ rest) = none ∧
    (s.toList ++ rest).head? ≠ some '('
  reads : ∀ rest, Boundary rest → g.atom (s.toList ++ rest) = some (c, rest)

variable {g}

/-- The end of a group ends chains. -/
theorem Lawful.ends_close (h : g.Lawful) (rest : List Char) : g.Ends (')' :: rest) := by
  intro k
  obtain ⟨_, _, hmore, -⟩ := h.blank k
  rw [hmore]
  rfl

/-- Nothing goes on at the end. -/
theorem Lawful.ends_nil (h : g.Lawful) : g.Ends [] := by
  intro k
  obtain ⟨_, _, hmore, -⟩ := h.blank k
  rw [hmore]
  rfl

/-- A word may stand behind a unit. -/
theorem Lawful.boundary_word (h : g.Lawful) (k : Connective) (rest : List Char) :
    Boundary ((g.word k).toList ++ rest) := by
  obtain ⟨c, more, hmore, hc⟩ := h.blank k
  rw [hmore]
  exact hc

/-- An atom is a unit. -/
theorem IsAtom.readsUnit {s : String} {c : α} (h : g.IsAtom s c) (tight : Connective) :
    g.ReadsUnit tight s c := by
  intro fuel rest _ hrest
  obtain ⟨hnegation, hgroup⟩ := h.plain rest
  unfold readUnit
  rw [hnegation]
  dsimp only
  split
  · next heq =>
    rw [heq] at hgroup
    exact absurd rfl hgroup
  · exact h.reads rest hrest

/-- A condition before a closing parenthesis is read as a group. -/
theorem Reads.readGroup (hg : g.Lawful) {tight : Connective} {s : String} {c : α}
    (h : g.Reads tight s c) {fuel : ℕ} (hfuel : s.toList.length < fuel) (rest : List Char) :
    Grammar.readGroup (g.read tight fuel) (s.toList ++ ')' :: rest) = some (c, rest) := by
  unfold Grammar.readGroup
  rw [h fuel _ hfuel (by simp [Boundary]) (hg.ends_close rest)]
  rfl

/-- A condition in parentheses is a unit. -/
theorem Reads.enclosed (hg : g.Lawful) (hnegation : ∀ rest,
    Text.afterStart? g.negation.toList ('(' :: rest) = none) {tight : Connective} {s : String}
    {c : α} (h : g.Reads tight s c) : g.ReadsUnit tight ("(" ++ s ++ ")") c := by
  intro fuel rest hfuel _
  have htext : ("(" ++ s ++ ")").toList ++ rest = '(' :: (s.toList ++ ')' :: rest) := by simp
  have hlen : s.toList.length < fuel := by
    simp only [String.toList_append, List.length_append] at hfuel
    have : "(".toList.length = 1 := rfl
    omega
  unfold readUnit
  rw [htext, hnegation]
  exact h.readGroup hg hlen rest

/-- A negated condition is a unit. -/
theorem Reads.negated (hg : g.Lawful) {tight : Connective} {s : String} {c : α}
    (h : g.Reads tight s c) : g.ReadsUnit tight (g.negation ++ s ++ ")") (g.negate c) := by
  intro fuel rest hfuel _
  have htext : (g.negation ++ s ++ ")").toList ++ rest =
      g.negation.toList ++ (s.toList ++ ')' :: rest) := by simp
  have hlen : s.toList.length < fuel := by
    simp only [String.toList_append, List.length_append] at hfuel
    have : ")".toList.length = 1 := rfl
    omega
  unfold readUnit
  rw [htext, Text.afterStart?_append]
  simp only [h.readGroup hg hlen rest, Option.map_some]

/-- A chain of one part is that part. -/
theorem readChain_single {k : Connective} {part : List Char → Option (α × List Char)} {fuel : ℕ}
    {s rest : List Char} {c : α} (hpart : part s = some (c, rest)) (hfuel : 0 < fuel)
    (hrest : Text.afterStart? (g.word k).toList rest = none) :
    g.readChain k part fuel s = some (c, rest) := by
  obtain ⟨n, rfl⟩ := Nat.exists_eq_add_of_lt hfuel
  rw [Nat.zero_add]
  have hmore : g.readMore k part (n + 1) rest = some ([], rest) := by rw [readMore, hrest]
  rw [readChain, hpart]
  simp only [Option.bind_eq_bind, Option.bind_some, hmore]
  rfl

/-- Further parts are read, each up to what may stand behind it. -/
theorem readMore_append {k : Connective} {part : List Char → Option (α × List Char)}
    {ok : List Char → Prop} (hword : ∀ rest, ok ((g.word k).toList ++ rest)) {texts : List String}
    {cs : List α}
    (h : List.Forall₂ (fun s c => ∀ rest, ok rest → part (s.toList ++ rest) = some (c, rest))
      texts cs)
    {fuel : ℕ} (hfuel : texts.length < fuel) {rest : List Char} (hrest : ok rest)
    (hend : Text.afterStart? (g.word k).toList rest = none) :
    g.readMore k part fuel
      ((texts.flatMap fun s => (g.word k).toList ++ s.toList) ++ rest) = some (cs, rest) := by
  induction h generalizing fuel with
  | nil =>
    obtain ⟨n, rfl⟩ := Nat.exists_eq_add_of_lt hfuel
    rw [readMore, List.flatMap_nil, List.nil_append, hend]
  | @cons s c texts cs hpart _ ih =>
    obtain ⟨n, rfl⟩ : ∃ n, fuel = n + 1 := ⟨fuel - 1, by omega⟩
    have hnext : ok ((texts.flatMap fun s => (g.word k).toList ++ s.toList) ++ rest) := by
      cases texts with
      | nil => exact hrest
      | cons t texts =>
        rw [List.flatMap_cons, List.append_assoc, List.append_assoc]
        exact hword _
    have hmore := ih (Nat.lt_of_succ_lt_succ hfuel)
    rw [List.flatMap_cons, List.append_assoc, List.append_assoc, readMore,
      Text.afterStart?_append]
    simp only [Option.bind_eq_bind, hpart _ hnext, Option.bind_some, hmore]
    rfl

/-- The characters of joined texts. -/
theorem toList_joinWith (separator s : String) (texts : List String) :
    (Text.joinWith separator (s :: texts)).toList =
      s.toList ++ texts.flatMap fun t => separator.toList ++ t.toList := by
  induction texts generalizing s with
  | nil => simp [Text.joinWith]
  | cons t texts ih => simp [Text.joinWith_cons_cons, ih]

/-- A chain of several parts is their junction. -/
theorem readChain_join {k : Connective} {part : List Char → Option (α × List Char)}
    {ok : List Char → Prop} (hword : ∀ rest, ok ((g.word k).toList ++ rest)) {texts : List String}
    {cs : List α}
    (h : List.Forall₂ (fun s c => ∀ rest, ok rest → part (s.toList ++ rest) = some (c, rest))
      texts cs)
    (hlen : 2 ≤ cs.length) {fuel : ℕ} (hfuel : texts.length ≤ fuel) {rest : List Char}
    (hrest : ok rest) (hend : Text.afterStart? (g.word k).toList rest = none) :
    g.readChain k part fuel ((Text.joinWith (g.word k) texts).toList ++ rest) =
      some (g.junction k cs, rest) := by
  obtain _ | ⟨hfirst, hothers⟩ := h
  · simp at hlen
  · next s c texts cs =>
    have hmore := readMore_append hword hothers hfuel hrest hend
    have hnext : ok ((texts.flatMap fun s => (g.word k).toList ++ s.toList) ++ rest) := by
      cases hothers with
      | nil => exact hrest
      | cons _ _ =>
        rw [List.flatMap_cons, List.append_assoc, List.append_assoc]
        exact hword _
    have hnonempty : cs.isEmpty = false := by
      cases cs with
      | nil => simp at hlen
      | cons _ _ => rfl
    rw [toList_joinWith, List.append_assoc, readChain, hfirst _ hnext]
    simp only [Option.bind_eq_bind, Option.bind_some, hmore, hnonempty]
    rfl

/-- A unit alone is a condition. -/
theorem ReadsUnit.reads {tight : Connective} {s : String} {c : α}
    (h : g.ReadsUnit tight s c) : g.Reads tight s c := by
  intro fuel rest hfuel hrest hends
  obtain ⟨n, rfl⟩ : ∃ n, fuel = n + 1 := ⟨fuel - 1, by omega⟩
  have hunit := h n rest (Nat.le_of_lt_succ hfuel) hrest
  exact readChain_single (readChain_single hunit n.succ_pos (hends _)) n.succ_pos (hends _)

/-- There are no more texts than characters in front of them. -/
theorem length_le_flatMap (separator : String) (h : separator.toList ≠ []) (texts : List String) :
    texts.length ≤ (texts.flatMap fun s => separator.toList ++ s.toList).length := by
  have hpos : 0 < separator.toList.length := List.length_pos_of_ne_nil h
  induction texts with
  | nil => simp
  | cons s texts ih =>
    rw [List.flatMap_cons, List.length_append, List.length_append, List.length_cons]
    omega

/-- A unit of a chain is no longer than the chain. -/
theorem length_le_of_mem {separator t : String} {texts : List String} (h : t ∈ texts) :
    t.toList.length ≤ (Text.joinWith separator texts).toList.length := by
  obtain ⟨s, texts, rfl⟩ := List.exists_cons_of_ne_nil (List.ne_nil_of_mem h)
  rw [toList_joinWith, List.length_append]
  rcases List.mem_cons.mp h with rfl | h
  · omega
  · obtain ⟨before, after, rfl⟩ := List.append_of_mem h
    rw [List.flatMap_append, List.flatMap_cons]
    simp only [List.length_append]
    omega

/-- Units with a word between each two are a condition, whichever connective binds tighter. -/
theorem reads_junction (hg : g.Lawful) {tight : Connective} (k : Connective) {texts : List String}
    {cs : List α} (h : List.Forall₂ (g.ReadsUnit tight) texts cs) (hlen : 2 ≤ cs.length) :
    g.Reads tight (Text.joinWith (g.word k) texts) (g.junction k cs) := by
  intro fuel rest hfuel hrest hends
  obtain ⟨n, rfl⟩ : ∃ n, fuel = n + 1 := ⟨fuel - 1, by omega⟩
  have hcount : texts.length ≤ n + 1 := by
    obtain _ | ⟨-, -⟩ := h
    · simp
    · next s c texts cs =>
      have hword : (g.word k).toList ≠ [] := by
        obtain ⟨_, _, hmore, -⟩ := hg.blank k
        rw [hmore]
        exact List.cons_ne_nil _ _
      have hle := length_le_flatMap (g.word k) hword texts
      rw [toList_joinWith, List.length_append] at hfuel
      rw [List.length_cons]
      omega
  have hunits : List.Forall₂ (fun s c => ∀ rest, Boundary rest →
      g.readUnit (g.read tight n) (s.toList ++ rest) = some (c, rest)) texts cs := by
    have hlens : ∀ s ∈ texts, s.toList.length ≤ n :=
      fun s hs => Nat.le_trans (length_le_of_mem hs) (Nat.le_of_lt_succ hfuel)
    exact ((List.forall₂_and_left _ _).mpr ⟨hlens, h⟩).imp
      fun s c hunit rest hok => hunit.2 n rest hunit.1 hok
  by_cases htight : k = tight
  · subst htight
    exact readChain_single (readChain_join (hg.boundary_word k) hunits hlen hcount hrest (hends k))
      n.succ_pos (hends _)
  · obtain rfl : k = tight.other := by cases k <;> cases tight <;> simp_all [Connective.other]
    have hword (rest : List Char) : Boundary ((g.word tight.other).toList ++ rest) ∧
        Text.afterStart? (g.word tight).toList ((g.word tight.other).toList ++ rest) = none := by
      have hother : tight.other.other = tight := by cases tight <;> rfl
      have hapart := hg.apart tight.other rest
      rw [hother] at hapart
      exact ⟨hg.boundary_word _ rest, hapart⟩
    have hsingles : List.Forall₂ (fun s c => ∀ rest, (Boundary rest ∧
        Text.afterStart? (g.word tight).toList rest = none) →
        g.readChain tight (g.readUnit (g.read tight n)) (n + 1) (s.toList ++ rest) =
          some (c, rest)) texts cs :=
      hunits.imp fun s c hunit rest hok => readChain_single (hunit rest hok.1) n.succ_pos hok.2
    exact readChain_join hword hsingles hlen hcount ⟨hrest, hends tight⟩ (hends _)

end Grammar

end ContentQuery
