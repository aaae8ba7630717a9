import ContentQuery.Proofs.Repository.Engine
import Mathlib.Data.List.Induction
import Mathlib.Data.List.Perm.Basic

/-!
# What is asked of a platform

A lawful way to sort gives back what it was given, in some order, if it comes to an end. By a
comparison that passes on from one member to the next it does come to an end: what compares as less
comes first, and members that are tied stay as they were. By any other comparison it may as well be
given up. Insertion is a lawful way to sort, and so the plain platform is lawful.
-/

namespace ContentQuery

namespace Sorting

/-- A comparison orders the members of a list: two of them compare the other way around if they
change places, and what holds from one to the next holds from the first to the last. -/
structure Orders {α : Type} (compare : α → α → Ordering) (all : List α) : Prop where
  swap : ∀ a ∈ all, ∀ b ∈ all, compare b a = (compare a b).swap
  trans : ∀ a ∈ all, ∀ b ∈ all, ∀ c ∈ all,
    compare a b ≠ .gt → compare b c ≠ .gt → compare a c ≠ .gt

/-- Every comparison orders an empty list. -/
theorem Orders.nil {α : Type} {compare : α → α → Ordering} : Orders compare [] where
  swap _ ha := absurd ha List.not_mem_nil
  trans _ ha := absurd ha List.not_mem_nil

/-- A comparison orders some of the members that it orders. -/
theorem Orders.mono {α : Type} {compare : α → α → Ordering} {all some : List α}
    (h : Orders compare all) (hsome : ∀ a ∈ some, a ∈ all) : Orders compare some where
  swap a ha b hb := h.swap a (hsome a ha) b (hsome b hb)
  trans a ha b hb c hc := h.trans a (hsome a ha) b (hsome b hb) c (hsome c hc)

/-- One member comes before another one in a list that was sorted: it compares as less, or they are
tied and it came before the other one already. -/
def Before {α : Type} (compare : α → α → Ordering) (all : List α) (a b : α) : Prop :=
  compare a b = .lt ∨ compare a b = .eq ∧ [a, b].Sublist all

/-- A way to sort that loses nothing, and that sorts by comparisons which order the members. -/
structure Lawful (sorting : Sorting) : Prop where
  perm : ∀ {α : Type} {compare : α → α → Ordering} {all sorted : List α},
    sorting.sort compare all = .ok sorted → sorted.Perm all
  sorts : ∀ {α : Type} {compare : α → α → Ordering} {all : List α}, Orders compare all →
    ∃ sorted, sorting.sort compare all = .ok sorted ∧ sorted.Pairwise (Before compare all)

/-! ### Insertion -/

section Insertion

variable {α : Type} {compare : α → α → Ordering}

/-- A member is put in somewhere. -/
theorem insertBehind_perm (new : α) (sorted : List α) :
    (insertBehind compare new sorted).Perm (new :: sorted) := by
  induction sorted with
  | nil => exact .refl _
  | cons last before ih =>
    rw [insertBehind]
    split
    · exact (ih.cons last).trans (.swap new last before)
    · exact .refl _

/-- The last member is put into what the others are sorted to. -/
theorem insertAll_append (all : List α) (new : α) :
    insertAll compare (all ++ [new]) =
      (insertBehind compare new (insertAll compare all).reverse).reverse := by
  simp only [insertAll, List.foldl_append, List.foldl_cons, List.foldl_nil, List.reverse_reverse]

/-- Sorting by insertion keeps the members. -/
theorem insertAll_perm (all : List α) : (insertAll compare all).Perm all := by
  induction all using List.reverseRecOn with
  | nil => exact .refl _
  | append_singleton all new ih =>
    have hothers : (insertAll compare all).reverse.Perm all := (List.reverse_perm _).trans ih
    rw [insertAll_append]
    calc (insertBehind compare new (insertAll compare all).reverse).reverse
      _ |>.Perm (insertBehind compare new (insertAll compare all).reverse) := List.reverse_perm _
      _ |>.Perm (new :: (insertAll compare all).reverse) := insertBehind_perm new _
      _ |>.Perm (new :: all) := hothers.cons new
      _ |>.Perm (all ++ [new]) := (List.perm_append_singleton new all).symm

/-- A new member that does not precede the last of sorted ones comes behind all of them. -/
theorem before_new {all before : List α} {last new : α} (h : Orders compare (all ++ [new]))
    (hmem : ∀ a ∈ last :: before, a ∈ all) (hlast : ∀ a ∈ before, Before compare all a last)
    (hnew : compare new last ≠ .lt) {a : α} (ha : a ∈ last :: before) :
    Before compare (all ++ [new]) a new := by
  have hwithin {a : α} (ha : a ∈ last :: before) : a ∈ all ++ [new] :=
    List.mem_append_left [new] (hmem a ha)
  have hself : new ∈ all ++ [new] := List.mem_append_right all (List.mem_singleton_self new)
  have hle : compare last new ≠ .gt := by
    intro hgt
    rw [h.swap last (hwithin List.mem_cons_self) new hself, hgt] at hnew
    exact hnew rfl
  have hahead : compare a new ≠ .gt := by
    rcases List.mem_cons.mp ha with rfl | hother
    · exact hle
    · refine h.trans a (hwithin ha) last (hwithin List.mem_cons_self) new hself ?_ hle
      rcases hlast a hother with hlt | ⟨heq, -⟩
      · simp [hlt]
      · simp [heq]
  cases hcompare : compare a new with
  | lt => exact .inl hcompare
  | gt => exact absurd hcompare hahead
  | eq =>
    refine .inr ⟨hcompare, ?_⟩
    exact (List.singleton_sublist.mpr (hmem a ha)).append (List.Sublist.refl [new])

/-- A member that is put into sorted ones, given last one first, stands where it belongs. -/
theorem pairwise_insertBehind {all sorted : List α} {new : α}
    (h : Orders compare (all ++ [new])) (hmem : ∀ a ∈ sorted, a ∈ all)
    (hsorted : sorted.Pairwise fun b a => Before compare all a b) :
    (insertBehind compare new sorted).Pairwise fun b a => Before compare (all ++ [new]) a b := by
  have hmono {a b : α} (h : Before compare all a b) : Before compare (all ++ [new]) a b :=
    h.imp_right (And.imp_right fun hall => hall.trans (List.sublist_append_left all [new]))
  induction sorted with
  | nil => exact List.pairwise_singleton _ _
  | cons last before ih =>
    obtain ⟨hlast, hbefore⟩ := List.pairwise_cons.mp hsorted
    rw [insertBehind]
    split
    · next hless =>
      have hrest := ih (fun a ha => hmem a (List.mem_cons_of_mem last ha)) hbefore
      refine List.pairwise_cons.mpr ⟨fun a ha => ?_, hrest⟩
      rcases List.mem_cons.mp ((insertBehind_perm new before).mem_iff.mp ha) with rfl | ha
      · exact .inl hless
      · exact hmono (hlast a ha)
    · next hnotLess =>
      exact List.pairwise_cons.mpr
        ⟨fun a ha => before_new h hmem hlast hnotLess ha, hsorted.imp hmono⟩

/-- Members that the comparison orders are sorted by insertion. -/
theorem pairwise_insertAll {all : List α} (h : Orders compare all) :
    (insertAll compare all).Pairwise (Before compare all) := by
  induction all using List.reverseRecOn with
  | nil => exact .nil
  | append_singleton all new ih =>
    have hbefore := ih (h.mono fun a ha => List.mem_append_left [new] ha)
    rw [insertAll_append, List.pairwise_reverse]
    refine pairwise_insertBehind h (fun a ha => ?_) (List.pairwise_reverse.mpr hbefore)
    exact (insertAll_perm all).mem_iff.mp (List.mem_reverse.mp ha)

/-- Sorting by insertion is lawful. -/
theorem lawful_insertion : insertion.Lawful where
  perm h := by
    obtain rfl := Except.ok.inj h
    exact insertAll_perm _
  sorts h := ⟨_, rfl, pairwise_insertAll h⟩

end Insertion

end Sorting

/-- A lawful engine and a lawful way to sort. -/
structure Platform.Lawful (platform : Platform) : Prop where
  engine : platform.engine.Lawful
  sorting : platform.sorting.Lawful

/-- The plain platform is lawful. -/
theorem Platform.lawful_plain : plain.Lawful := ⟨PlainEngine.lawful, Sorting.lawful_insertion⟩

end ContentQuery
