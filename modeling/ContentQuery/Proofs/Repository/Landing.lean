import ContentQuery.Proofs.Path
import Mathlib.Data.List.DropRight
import Mathlib.Tactic.MkIffOfInductiveProp

/-!
# Where listed nodes land

A listed node is put below what is found at the normal form of the path without its last name. A
path without its last name may have blanks, slashes or the ending for every node below at its end,
which the normal form drops; then the node lands at a shorter path than its own. Otherwise it lands
at its own path.
-/

namespace ContentQuery

namespace Path

/-- The text before the last slash of a path. -/
def before (path : String) : List Char :=
  ((path.toList.reverse.dropWhile (· != '/')).drop 1).reverse

/-- What is left of a text where paths are normalized. -/
def stripped (s : List Char) : List Char :=
  dropSlashes ((Text.beforeEnd? everything (Text.trim s)).getD (Text.trim s))

/-- Where a listed node lands. -/
def landing (path : String) : String :=
  String.ofList (stripped (before path) ++ '/' :: (lastName path).toList)

/-- A path whose parent is in normal form, too: what stands before its last name ends neither in a
blank nor in a slash nor in the ending for every node below. -/
@[mk_iff]
structure Stable (path : String) : Prop where
  notBlank : (before path).getLast?.any Text.isBlank = false
  notSlash : (before path).getLast? ≠ some '/'
  notAll : ¬ everything <:+ before path

instance (path : String) : Decidable (Stable path) :=
  decidable_of_iff' _ (stable_iff path)

/-- A path that ends neither in a blank nor in the ending for every node below. -/
@[mk_iff]
structure Settled (path : String) : Prop where
  notBlank : path.toList.getLast?.any Text.isBlank = false
  notAll : ¬ everything <:+ path.toList

instance (path : String) : Decidable (Settled path) :=
  decidable_of_iff' _ (settled_iff path)

/-- A path is what is before its last slash, the slash and the last name. -/
theorem toList_eq_before {path : String} (h : path.toList.head? = some '/') :
    path.toList = before path ++ '/' :: (lastName path).toList := by
  have hmem : '/' ∈ path.toList.reverse := List.mem_reverse.mpr (List.mem_of_mem_head? h)
  have hsplit := List.takeWhile_append_dropWhile (p := (· != '/')) (l := path.toList.reverse)
  have hdrop : path.toList.reverse.dropWhile (· != '/') ≠ [] := by
    rw [ne_eq, List.dropWhile_eq_nil_iff]
    intro hall
    exact absurd (hall '/' hmem) (by decide)
  obtain ⟨c, rest, hrest⟩ := List.exists_cons_of_ne_nil hdrop
  have hfirst := List.head?_dropWhile_not (· != '/') path.toList.reverse
  rw [hrest] at hfirst hsplit
  obtain rfl : c = '/' := by simpa using hfirst
  calc path.toList = (path.toList.reverse.takeWhile (· != '/') ++ '/' :: rest).reverse := by
        rw [hsplit, List.reverse_reverse]
    _ = rest.reverse ++ '/' :: (path.toList.reverse.takeWhile (· != '/')).reverse := by simp
    _ = before path ++ '/' :: (lastName path).toList := by
        rw [before, lastName, hrest, String.toList_ofList, List.drop_one, List.tail_cons]

/-- What is before the last slash is empty or begins with a slash. -/
theorem head?_before {path : String} (h : path.toList.head? = some '/') :
    ∀ c ∈ (before path).head?, c = '/' := by
  rw [toList_eq_before h] at h
  cases hbefore : before path with
  | nil => nofun
  | cons c rest =>
    rw [hbefore] at h
    simpa using h

/-- The parent is the path before the last slash, or the root. -/
theorem parent_eq (path : String) :
    parent path = if (before path).isEmpty then root else String.ofList (before path) :=
  rfl

/-! ### Where nodes land -/

/-- Only the end is stripped of a text that does not begin with a blank. -/
theorem trim_eq {s : List Char} (hs : ∀ c ∈ s.head?, c = '/') :
    Text.trim s = s.rdropWhile Text.isBlank := by
  have hskip : Text.skipBlanks s = s := by
    cases s with
    | nil => rfl
    | cons c rest =>
      obtain rfl := hs c rfl
      rfl
  rw [Text.trim, hskip]
  rfl

/-- A text begins with what is left of it, if it does not begin with a blank. -/
theorem stripped_prefix {s : List Char} (hs : ∀ c ∈ s.head?, c = '/') : stripped s <+: s := by
  refine (dropSlashes_spec _).1.trans ((Text.getD_beforeEnd?_prefix everything _).trans ?_)
  rw [trim_eq hs]
  exact List.rdropWhile_prefix Text.isBlank s

/-- Nothing is dropped at the end if the last character is not dropped. -/
theorem rdropWhile_eq_self_iff (drops : Char → Bool) (s : List Char) :
    s.rdropWhile drops = s ↔ s.getLast?.any drops = false := by
  rw [List.rdropWhile_eq_self_iff]
  cases s using List.reverseRecOn with
  | nil => simp
  | append_singleton s c => simp

/-- Something is left out if a text has the ending. -/
theorem getD_beforeEnd?_eq_self_iff {ending : List Char} (hending : ending ≠ []) (s : List Char) :
    (Text.beforeEnd? ending s).getD s = s ↔ ¬ ending <:+ s := by
  constructor
  · rintro h ⟨rest, rfl⟩
    have hbefore : Text.beforeEnd? ending (rest ++ ending) = some rest := by
      rw [Text.beforeEnd?, List.reverse_append, Text.afterStart?_append, Option.map_some,
        List.reverse_reverse]
    rw [hbefore, Option.getD_some, List.self_eq_append_right] at h
    exact hending h
  · intro h
    cases hbefore : Text.beforeEnd? ending s with
    | none => rfl
    | some rest => exact absurd ⟨rest, (Text.eq_append_of_beforeEnd? hbefore).symm⟩ h

/-- All of a text is left if it ends neither in a blank nor in a slash nor in the ending for every
node below. -/
theorem stripped_eq_self_iff {s : List Char} (hs : ∀ c ∈ s.head?, c = '/') :
    stripped s = s ↔
      s.getLast?.any Text.isBlank = false ∧ s.getLast? ≠ some '/' ∧ ¬ everything <:+ s := by
  have hslash : dropSlashes s = s ↔ s.getLast? ≠ some '/' := by
    refine (rdropWhile_eq_self_iff (· == '/') s).trans ?_
    cases s.getLast? <;> simp
  constructor
  · intro h
    -- No step leaves anything out, as all of them together do not.
    obtain ⟨hbare, -⟩ := dropSlashes_spec ((Text.beforeEnd? everything (Text.trim s)).getD _)
    have hwhole := Text.getD_beforeEnd?_prefix everything (Text.trim s)
    have htrim := List.rdropWhile_prefix Text.isBlank s
    rw [← trim_eq hs] at htrim
    rw [← stripped, h] at hbare
    have htrimmed : Text.trim s = s := htrim.sublist.antisymm (hbare.trans hwhole).sublist
    rw [htrimmed] at hbare hwhole
    have hends := hwhole.sublist.antisymm hbare.sublist
    refine ⟨?_, ?_, (getD_beforeEnd?_eq_self_iff (by decide) s).mp hends⟩
    · rwa [trim_eq hs, rdropWhile_eq_self_iff] at htrimmed
    · rwa [stripped, htrimmed, hends, hslash] at h
  · rintro ⟨hblank, hlast, hall⟩
    have htrimmed : Text.trim s = s := by rwa [trim_eq hs, rdropWhile_eq_self_iff]
    rw [stripped, htrimmed, (getD_beforeEnd?_eq_self_iff (by decide) s).mpr hall, hslash]
    exact hlast

/-- A normal form is what is left of the text, or that of the root. -/
theorem eq_of_normalize {path normal : String} (h : normalize path = .ok normal) :
    normal = if (stripped path.toList).isEmpty then root
      else String.ofList (stripped path.toList) := by
  rw [normalize] at h
  simp only at h
  split at h
  · cases h
  · split at h
    · cases h
    · exact (Except.ok.inj h).symm

/-- A path that scopes can be made of is not empty. -/
theorem IsScope.ne_empty {path : String} (h : IsScope path) : path ≠ "" := by
  rintro rfl
  cases h.absolute

/-- A path that scopes can be made of is in normal form exactly if it is settled. -/
theorem IsScope.normalize_eq_self_iff {path : String} (h : IsScope path) :
    normalize path = .ok path ↔ Settled path := by
  by_cases hroot : path = root
  · subst hroot
    decide +kernel
  have hhead : ∀ c ∈ path.toList.head?, c = '/' := by simp [h.absolute]
  have hstripped := stripped_eq_self_iff hhead
  have hlast := h.ending.resolve_left hroot
  constructor
  · intro hnormal
    have heq := eq_of_normalize hnormal
    split at heq
    · exact absurd heq hroot
    · rw [← String.toList_inj, String.toList_ofList] at heq
      obtain ⟨hblank, -, hall⟩ := hstripped.mp heq.symm
      exact ⟨hblank, hall⟩
  · rintro ⟨hblank, hall⟩
    have htrim : Text.trim path.toList = path.toList := by
      rwa [trim_eq hhead, rdropWhile_eq_self_iff]
    have hwhole := hstripped.mpr ⟨hblank, hlast, hall⟩
    rw [stripped, htrim] at hwhole
    simp [normalize, htrim, h.absolute, h.unquoted, hwhole, h.ne_empty]

/-- A node whose parent is in normal form lands at the child of it. -/
theorem child_of_normalize_parent {path base : String} (h : normalize (parent path) = .ok base) :
    child base (lastName path) = landing path := by
  have hbase := eq_of_normalize h
  have hparent : stripped (parent path).toList = stripped (before path) := by
    rw [parent_eq]
    split
    · next hempty =>
      rw [List.isEmpty_iff.mp hempty]
      rfl
    · rw [String.toList_ofList]
  rw [hparent] at hbase
  rw [hbase, landing, ← String.toList_inj, String.toList_ofList]
  split
  · next hempty =>
    rw [List.isEmpty_iff.mp hempty]
    simp [child, isRoot, root]
  · next hne =>
    have hroot : String.ofList (stripped (before path)) ≠ root := by
      intro heq
      have hlast : (stripped (before path)).getLast? ≠ some '/' := (dropSlashes_spec _).2
      rw [← String.toList_inj, String.toList_ofList] at heq
      rw [heq] at hlast
      exact hlast rfl
    rw [child_of_ne_root hroot]
    simp

/-- The parent of a stable path is in normal form. -/
theorem Stable.eq_parent {path base : String} (hstable : Stable path)
    (h : path.toList.head? = some '/') (hbase : normalize (parent path) = .ok base) :
    base = parent path := by
  have hstripped : stripped (before path) = before path :=
    (stripped_eq_self_iff (head?_before h)).mpr ((stable_iff path).mp hstable)
  have hnormal := eq_of_normalize hbase
  rw [parent_eq] at hnormal ⊢
  split
  · next hempty =>
    rw [if_pos hempty] at hnormal
    exact hnormal
  · next hne =>
    rw [if_neg hne, String.toList_ofList, hstripped, if_neg hne] at hnormal
    exact hnormal

/-- A listed node lands at its own path if this is stable. -/
theorem landing_eq_self_iff {path : String} (h : path.toList.head? = some '/') :
    landing path = path ↔ Stable path := by
  have hstripped := stripped_eq_self_iff (head?_before h)
  rw [landing, ← String.toList_inj, String.toList_ofList]
  conv_lhs => rw [toList_eq_before h]
  rw [List.append_cancel_right_eq, hstripped, stable_iff]

/-- A listed node that does not land at its own path lands at a shorter one. -/
theorem length_landing_lt {path : String} (h : path.toList.head? = some '/')
    (hne : landing path ≠ path) : (landing path).toList.length < path.toList.length := by
  have hprefix := stripped_prefix (head?_before h)
  rw [landing, String.toList_ofList, List.length_append, toList_eq_before h, List.length_append]
  refine Nat.add_lt_add_right (lt_of_le_of_ne hprefix.length_le fun hlength => hne ?_) _
  rw [landing, hprefix.eq_of_length hlength, ← toList_eq_before h, String.ofList_toList]

end Path

end ContentQuery
