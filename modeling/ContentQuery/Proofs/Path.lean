import ContentQuery.Path
import Mathlib.Data.List.Basic

/-!
# Paths and names

A path is the names on the way from the root, with a slash before each. Names that are not empty and
have no slash are found again in the path that they make.
-/

namespace ContentQuery

namespace Text

/-- A text has a piece. -/
theorem exists_pieces_eq_cons (separates : Char → Bool) (s : List Char) :
    ∃ piece others, pieces separates s = piece :: others := by
  cases s with
  | nil => exact ⟨_, _, rfl⟩
  | cons c rest =>
    rw [pieces]
    split
    · exact ⟨_, _, rfl⟩
    · cases pieces separates rest with
      | nil => exact ⟨_, _, rfl⟩
      | cons piece others => exact ⟨_, _, rfl⟩

/-- A separator between two texts separates their pieces. -/
theorem pieces_append {separates : Char → Bool} {c : Char} (h : separates c = true)
    (s rest : List Char) :
    pieces separates (s ++ c :: rest) = pieces separates s ++ pieces separates rest := by
  induction s with
  | nil => simp [pieces, h]
  | cons d s ih =>
    obtain ⟨piece, others, hpieces⟩ := exists_pieces_eq_cons separates s
    rw [List.cons_append, pieces, pieces, ih, hpieces]
    split <;> rfl

/-- A text without the separator is one piece. -/
theorem pieces_of_not_mem {c : Char} {s : List Char} (h : c ∉ s) : pieces (· == c) s = [s] := by
  induction s with
  | nil => rfl
  | cons d s ih =>
    obtain ⟨hne, hmem⟩ := not_or.mp (mt List.mem_cons.mpr h)
    rw [pieces, beq_eq_false_iff_ne.mpr (Ne.symm hne), ih hmem]
    rfl

/-- Pieces with their separator before each are the text with a separator before it. -/
theorem flatMap_pieces (c : Char) (s : List Char) :
    (pieces (· == c) s).flatMap (c :: ·) = c :: s := by
  induction s with
  | nil => rfl
  | cons d s ih =>
    obtain ⟨piece, others, hpieces⟩ := exists_pieces_eq_cons (· == c) s
    rw [hpieces, List.flatMap_cons, List.cons_append, List.cons.injEq] at ih
    rw [pieces, hpieces]
    split
    · next h =>
      obtain rfl := eq_of_beq h
      simp only [List.flatMap_cons, List.cons_append, List.nil_append, ih.2]
    · rw [List.flatMap_cons, List.cons_append, List.cons_append, ih.2]

/-- Texts without a separator are the pieces of what they make with the separator between them. -/
theorem pieces_intercalate {c : Char} {texts : List (List Char)} (hne : texts ≠ [])
    (h : ∀ s ∈ texts, c ∉ s) : pieces (· == c) (([c] : List Char).intercalate texts) = texts := by
  induction texts with
  | nil => exact absurd rfl hne
  | cons s others ih =>
    have hs := pieces_of_not_mem (h s List.mem_cons_self)
    cases others with
    | nil => rwa [List.intercalate_singleton]
    | cons next others =>
      have hothers := ih (List.cons_ne_nil next others)
        fun t ht => h t (List.mem_cons_of_mem s ht)
      have hsplit (rest : List Char) :
          pieces (· == c) (s ++ c :: rest) = pieces (· == c) s ++ pieces (· == c) rest :=
        pieces_append (by simp) s rest
      rw [List.intercalate_cons_cons, List.append_assoc, List.singleton_append, hsplit, hs,
        hothers, List.singleton_append]

/-- A beginning is taken off. -/
@[simp] theorem afterStart?_append (start rest : List Char) :
    afterStart? start (start ++ rest) = some rest := by
  induction start with
  | nil => rfl
  | cons c start ih => simp [afterStart?, ih]

/-- A text without a beginning had it. -/
theorem eq_append_of_afterStart? {start text rest : List Char}
    (h : afterStart? start text = some rest) : text = start ++ rest := by
  induction start generalizing text with
  | nil => exact Option.some.inj h
  | cons c start ih =>
    cases text with
    | nil => cases h
    | cons d text =>
      rw [afterStart?] at h
      split at h
      · next heq => rw [heq, ih h, List.cons_append]
      · cases h

/-- A text without an ending had it. -/
theorem eq_append_of_beforeEnd? {ending text rest : List Char}
    (h : beforeEnd? ending text = some rest) : text = rest ++ ending := by
  obtain ⟨reversed, hafter, rfl⟩ := Option.map_eq_some_iff.mp h
  have hreverse := congrArg List.reverse (eq_append_of_afterStart? hafter)
  simpa using hreverse

/-- A text begins with what is left of it without an ending. -/
theorem getD_beforeEnd?_prefix (ending text : List Char) :
    (beforeEnd? ending text).getD text <+: text := by
  cases h : beforeEnd? ending text with
  | none => exact List.prefix_rfl
  | some rest =>
    rw [Option.getD_some, eq_append_of_beforeEnd? h]
    exact List.prefix_append rest ending

end Text

namespace Path

/-- A path that scopes can be made of: it is absolute, has no quote, and is the root or does not end
in a slash. -/
structure IsScope (path : String) : Prop where
  absolute : path.toList.head? = some '/'
  unquoted : '\x27' ∉ path.toList
  ending : path = "/" ∨ path.toList.getLast? ≠ some '/'

/-- A path without the slashes at its end begins it, and ends in none. -/
theorem dropSlashes_spec (path : List Char) :
    dropSlashes path <+: path ∧ (dropSlashes path).getLast? ≠ some '/' := by
  constructor
  · rw [dropSlashes, ← List.reverse_suffix, List.reverse_reverse]
    exact List.dropWhile_suffix _
  · rw [dropSlashes, List.getLast?_reverse]
    have hfirst := List.head?_dropWhile_not (· == '/') path.reverse
    intro hslash
    rw [hslash] at hfirst
    exact absurd hfirst (by decide)

/-- What is normalized can be a scope. -/
theorem isScope_of_normalize {path normal : String} (h : normalize path = .ok normal) :
    IsScope normal := by
  rw [normalize] at h
  obtain ⟨trimmed, htrimmed⟩ : ∃ trimmed, Text.trim path.toList = trimmed := ⟨_, rfl⟩
  simp only [htrimmed] at h
  split at h
  · cases h
  · next habsolute =>
    split at h
    · cases h
    · next hunquoted =>
      obtain ⟨whole, hwhole⟩ : ∃ whole, (Text.beforeEnd? everything trimmed).getD trimmed = whole :=
        ⟨_, rfl⟩
      rw [hwhole] at h
      have hbegins : whole <+: trimmed := hwhole ▸ Text.getD_beforeEnd?_prefix everything trimmed
      obtain ⟨hbare, hlast⟩ := dropSlashes_spec whole
      obtain ⟨behind, hparts⟩ := hbare.trans hbegins
      split at h
      · cases h
        exact ⟨rfl, by decide, .inl rfl⟩
      · next hne =>
        cases h
        refine ⟨?_, ?_, .inr ?_⟩
        · cases hchars : dropSlashes whole with
          | nil => simp [hchars] at hne
          | cons c rest =>
            rw [hchars] at hparts
            rw [← hparts] at habsolute
            simpa using habsolute
        · rw [String.toList_ofList]
          intro hquote
          refine hunquoted ?_
          rw [← hparts]
          simp [hquote]
        · rwa [String.toList_ofList]

/-- The path that leads from a base along names. -/
def along (base : String) : List String → String
  | [] => base
  | name :: more => along (base ++ "/" ++ name) more

/-- Names that a path can be taken apart into: they are not empty and have no slash. -/
def IsStep (name : String) : Prop := name.toList ≠ [] ∧ '/' ∉ name.toList

/-- The characters of a path along names. -/
theorem toList_along (base : String) (names : List String) :
    (along base names).toList = base.toList ++ names.flatMap ('/' :: ·.toList) := by
  induction names generalizing base with
  | nil => simp [along]
  | cons name more ih => simp [along, ih]

/-- A path goes on with one more name. -/
theorem along_append (base : String) (names : List String) (name : String) :
    along base (names ++ [name]) = along base names ++ "/" ++ name := by
  induction names generalizing base with
  | nil => rfl
  | cons first more ih => exact ih _

/-- Only the root has no names on the way. -/
theorem names?_eq_nil_iff {path : String} : names? path = some [] ↔ path = root := by
  rw [names?, ← String.toList_inj]
  split
  · next h => simp [h, root]
  · next rest hrest h =>
    obtain ⟨piece, others, hpieces⟩ := Text.exists_pieces_eq_cons (· == '/') rest
    simpa [hpieces, h, root] using hrest
  · next h _ => simpa [root] using h

/-- The names of a path make it. -/
theorem along_of_names? {path : String} {names : List String} (h : names? path = some names)
    (hne : names ≠ []) : along "" names = path := by
  rw [names?] at h
  split at h
  · cases h
    exact absurd rfl hne
  · next rest _ hpath =>
    cases h
    have hpieces := Text.flatMap_pieces '/' rest
    rw [← String.toList_inj, toList_along, hpath, ← hpieces, List.flatMap_map]
    simp
  · cases h

/-- The pieces of a path along steps are the steps. -/
theorem pieces_steps (names : List String) (h : ∀ name ∈ names, IsStep name) (s : List Char)
    (hs : '/' ∉ s) :
    Text.pieces (· == '/') (s ++ names.flatMap ('/' :: ·.toList)) =
      s :: names.map String.toList := by
  induction names generalizing s with
  | nil => simpa using Text.pieces_of_not_mem hs
  | cons name more ih =>
    have hmore := ih (fun other ho => h other (List.mem_cons_of_mem name ho)) name.toList
      (h name List.mem_cons_self).2
    rw [List.flatMap_cons, List.cons_append, Text.pieces_append rfl,
      Text.pieces_of_not_mem hs, hmore]
    rfl

/-- The names of a path along steps are the steps. -/
theorem names?_along {names : List String} (h : ∀ name ∈ names, IsStep name) (hne : names ≠ []) :
    names? (along "" names) = some names := by
  cases names with
  | nil => exact absurd rfl hne
  | cons first more =>
    have hfirst := h first List.mem_cons_self
    have hmore : ∀ name ∈ more, IsStep name := fun name hname =>
      h name (List.mem_cons_of_mem first hname)
    have htext : (along "" (first :: more)).toList =
        '/' :: (first.toList ++ more.flatMap ('/' :: ·.toList)) := by
      simp [toList_along]
    rw [names?, htext]
    split
    · next heq => simp_all [IsStep]
    · next rest _ heq =>
      obtain rfl := (List.cons.inj heq).2
      rw [pieces_steps more hmore first.toList hfirst.2]
      simp [Function.comp_def]
    · next hslash => exact absurd rfl (hslash _)

/-- A child has one more name on the way. -/
theorem names?_child {parent name : String} {names : List String} (h : names? parent = some names)
    (hsteps : ∀ step ∈ names, IsStep step) (hname : IsStep name) :
    names? (child parent name) = some (names ++ [name]) := by
  have hchild : child parent name = along "" (names ++ [name]) := by
    rw [along_append, child]
    by_cases hne : names = []
    · subst hne
      have hroot := names?_eq_nil_iff.mp h
      simp [isRoot, hroot, along]
    · have hroot : parent ≠ root := fun heq => by
        rw [names?_eq_nil_iff.mpr heq] at h
        exact hne (Option.some.inj h).symm
      simp [isRoot, hroot, along_of_names? h hne]
  have hall : ∀ step ∈ names ++ [name], IsStep step := by
    intro step hstep
    rcases List.mem_append.mp hstep with hstep | hstep
    · exact hsteps step hstep
    · obtain rfl := List.mem_singleton.mp hstep
      exact hname
  rw [hchild]
  exact names?_along hall (by simp)

/-- A child below another node than the root. -/
theorem child_of_ne_root {path : String} (h : path ≠ root) (name : String) :
    child path name = path ++ "/" ++ name := by
  simp [child, isRoot, h]

/-- A path that ends in a name is not that of the root. -/
theorem append_name_ne_root {name : String} (hname : IsStep name) (base : String) :
    base ++ "/" ++ name ≠ root := by
  intro heq
  have hlength := congrArg (·.toList.length) heq
  have hpositive := List.length_pos_iff.mpr hname.1
  simp [root] at hlength hpositive
  omega

/-- No child is the root. -/
theorem child_ne_root {name : String} (hname : IsStep name) (base : String) :
    child base name ≠ root := by
  by_cases hroot : base = root
  · have h := append_name_ne_root hname ""
    simpa [child, isRoot, hroot] using h
  · rw [child_of_ne_root hroot]
    exact append_name_ne_root hname base

/-- The parent of a child is the node that it was added to. -/
theorem parent_child {base name : String} (hbase : base ≠ "") (hname : IsStep name) :
    parent (child base name) = base := by
  have hdrop (rest : List Char) :
      ((name.toList.reverse ++ '/' :: rest).dropWhile (· != '/')).drop 1 = rest := by
    rw [List.dropWhile_append_of_pos]
    · rfl
    · intro c hc
      rw [bne_iff_ne]
      rintro rfl
      exact hname.2 (List.mem_reverse.mp hc)
  by_cases hroot : base = root
  · have h := hdrop []
    simp only [List.drop_one] at h
    simp [parent, child, isRoot, hroot, root, h]
  · have h := hdrop base.toList.reverse
    simp only [List.drop_one] at h
    simp [parent, child_of_ne_root hroot, h, hbase]

/-- Children of one name have one path only if they have one parent. -/
theorem child_inj {base other name : String} (hbase : base ≠ "") (hother : other ≠ "")
    (hname : IsStep name) : child base name = child other name ↔ base = other := by
  constructor
  · intro hsame
    rw [← parent_child hbase hname, hsame, parent_child hother hname]
  · rintro rfl
    rfl

/-- The path of the node that the names lead to. -/
def ofNames : List String → String
  | [] => root
  | names => along "" names

/-- The path along the names of a path is the path. -/
theorem ofNames_of_names? {path : String} {names : List String} (h : names? path = some names) :
    ofNames names = path := by
  cases names with
  | nil => exact (names?_eq_nil_iff.mp h).symm
  | cons first more => exact along_of_names? h (List.cons_ne_nil first more)

/-- The names of a path along steps are the steps. -/
theorem names?_ofNames {names : List String} (h : ∀ name ∈ names, IsStep name) :
    names? (ofNames names) = some names := by
  cases names with
  | nil => exact names?_eq_nil_iff.mpr rfl
  | cons first more => exact names?_along h (List.cons_ne_nil first more)

/-- Different steps make different paths. -/
theorem ofNames_inj {names other : List String} (h : ∀ name ∈ names, IsStep name)
    (hother : ∀ name ∈ other, IsStep name) : ofNames names = ofNames other ↔ names = other := by
  constructor
  · intro heq
    have hnames := names?_ofNames h
    rw [heq, names?_ofNames hother] at hnames
    exact (Option.some.inj hnames).symm
  · rintro rfl
    rfl

/-- A path along steps is not empty. -/
theorem ofNames_ne_empty {names : List String} (h : ∀ name ∈ names, IsStep name) :
    ofNames names ≠ "" := by
  intro heq
  have hnames := names?_ofNames h
  rw [heq] at hnames
  cases hnames

/-- The path of a child goes on with its name. -/
theorem child_ofNames {names : List String} {name : String} (hsteps : ∀ step ∈ names, IsStep step)
    (hname : IsStep name) : child (ofNames names) name = ofNames (names ++ [name]) := by
  have hchild := names?_child (names?_ofNames hsteps) hsteps hname
  exact (ofNames_of_names? hchild).symm

/-- The characters of a path are the names with a slash before each. -/
theorem toList_ofNames {names : List String} (hne : names ≠ []) :
    (ofNames names).toList = names.flatMap ('/' :: ·.toList) := by
  cases names with
  | nil => exact absurd rfl hne
  | cons first more => rw [ofNames, toList_along]; exacts [rfl, nofun]

/-- The pieces of a path are an empty one and the names. -/
theorem pieces_ofNames {names : List String} (h : ∀ name ∈ names, IsStep name) (hne : names ≠ []) :
    Text.pieces (· == '/') (ofNames names).toList = [] :: names.map String.toList := by
  rw [toList_ofNames hne]
  exact pieces_steps names h [] List.not_mem_nil

/-- One path lies below another one if its names go on from those of the other one. -/
theorem isBelow_ofNames_iff {names base : List String} (hnames : ∀ name ∈ names, IsStep name)
    (hbase : ∀ name ∈ base, IsStep name) (hne : base ≠ []) :
    isBelow (ofNames names) (ofNames base) = true ↔ base <+: names ∧ base ≠ names := by
  rw [isBelow, List.isPrefixOf_iff_prefix]
  constructor
  · rintro ⟨rest, hrest⟩
    rw [List.append_assoc, List.singleton_append] at hrest
    have hpieces : Text.pieces (· == '/') ((ofNames base).toList ++ '/' :: rest) =
        Text.pieces (· == '/') (ofNames base).toList ++ Text.pieces (· == '/') rest :=
      Text.pieces_append rfl _ rest
    obtain ⟨piece, others, hothers⟩ := Text.exists_pieces_eq_cons (· == '/') rest
    rw [hrest, pieces_ofNames hbase hne, hothers, List.cons_append] at hpieces
    have hnonempty : names ≠ [] := by
      -- The root has no other piece than two empty ones.
      rintro rfl
      have hlength := congrArg List.length hpieces
      have hpositive := List.length_pos_iff.mpr hne
      simp [ofNames, root, Text.pieces] at hlength
      omega
    rw [pieces_ofNames hnames hnonempty, List.cons.injEq, List.map_eq_append_iff] at hpieces
    obtain ⟨-, start, more, rfl, hstart, hmore⟩ := hpieces
    obtain rfl := List.map_injective_iff.mpr (fun _ _ => String.toList_injective) hstart
    refine ⟨List.prefix_append start more, fun heq => ?_⟩
    obtain rfl := List.self_eq_append_right.mp heq
    cases hmore
  · rintro ⟨⟨more, rfl⟩, hproper⟩
    cases more with
    | nil => exact absurd (List.append_nil base).symm hproper
    | cons first more =>
      rw [toList_ofNames hne, toList_ofNames (by simp), List.flatMap_append, List.flatMap_cons,
        List.cons_append]
      exact (List.prefix_append_right_inj _).mpr ⟨_, rfl⟩

end Path

end ContentQuery
