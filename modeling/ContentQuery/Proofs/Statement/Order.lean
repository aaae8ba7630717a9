import ContentQuery.Order
import ContentQuery.Proofs.Statement.Grammar

/-!
# Reading the order of a statement

Both languages write an order as a list of entries behind an opening of their own, and nothing for
no order. A language that reads its entries back reads such lists back.
-/

namespace ContentQuery

namespace Order

open Text (afterStart?)

/-- Reads entries up to the end. The fuel bounds how many there are. -/
def readEntries? (entry : List Char → Option (Order × List Char)) :
    ℕ → List Char → Option (List Order)
  | 0, _ => none
  | fuel + 1, s => do
    let (o, rest) ← entry s
    match rest with
    | [] => return [o]
    | _ =>
      let rest ← afterStart? ", ".toList rest
      let others ← readEntries? entry fuel rest
      return o :: others

/-- Reads the clause of an order, or the end. -/
def readClause? (opening : String) (entry : List Char → Option (Order × List Char)) :
    List Char → Option (List Order)
  | [] => some []
  | s => do
    let rest ← afterStart? opening.toList s
    readEntries? entry (rest.length + 1) rest

/-- The clause of an order. -/
def clause (opening : String) (write : Order → String) (order : List Order) : String :=
  if order.isEmpty then "" else opening ++ Text.joinWith ", " (order.map write)

variable {entry : List Char → Option (Order × List Char)} {write : Order → String}

/-- Written entries are read back. -/
theorem readEntries?_joinWith {o : Order} {others : List Order}
    (h : ∀ o' ∈ o :: others, ∀ rest, entry ((write o').toList ++ rest) = some (o', rest))
    {fuel : ℕ} (hfuel : others.length < fuel) :
    readEntries? entry fuel (Text.joinWith ", " ((o :: others).map write)).toList =
      some (o :: others) := by
  induction others generalizing o fuel with
  | nil =>
    obtain ⟨n, rfl⟩ := Nat.exists_eq_add_of_lt hfuel
    have hentry := h o List.mem_cons_self []
    rw [List.append_nil] at hentry
    rw [List.map_cons, List.map_nil, Text.joinWith, readEntries?, hentry]
    rfl
  | cons next others ih =>
    obtain ⟨n, rfl⟩ : ∃ n, fuel = n + 1 := ⟨fuel - 1, by omega⟩
    have htext : (Text.joinWith ", " ((o :: next :: others).map write)).toList =
        (write o).toList ++ (',' :: ' ' ::
          (Text.joinWith ", " ((next :: others).map write)).toList) := by
      simp [Text.joinWith_cons_cons]
    have hrest := ih (fun o' ho' => h o' (List.mem_cons_of_mem o ho'))
      (Nat.lt_of_succ_lt_succ hfuel)
    have hcomma (s : List Char) : afterStart? ", ".toList (',' :: ' ' :: s) = some s := rfl
    rw [htext, readEntries?, h o List.mem_cons_self]
    simp only [Option.bind_eq_bind, Option.bind_some, hcomma, hrest]
    rfl

/-- A written order is read back. -/
theorem readClause?_clause {opening : String} (hopening : opening.toList ≠ []) {order : List Order}
    (h : ∀ o ∈ order, ∀ rest, entry ((write o).toList ++ rest) = some (o, rest)) :
    readClause? opening entry (clause opening write order).toList = some order := by
  cases order with
  | nil => rfl
  | cons o others =>
    have hfuel : others.length <
        (Text.joinWith ", " ((o :: others).map write)).toList.length + 1 := by
      have hlen := Grammar.length_le_flatMap ", " (by decide) (others.map write)
      rw [List.map_cons, Grammar.toList_joinWith, List.length_append]
      rw [List.length_map] at hlen
      omega
    have hread := readEntries?_joinWith h hfuel
    have hclause : (clause opening write (o :: others)).toList = opening.toList ++
        (Text.joinWith ", " ((o :: others).map write)).toList := by
      rw [clause, List.isEmpty_cons, if_neg (by decide), String.toList_append]
    rw [hclause]
    unfold readClause?
    split
    · next heq => exact absurd (List.append_eq_nil_iff.mp heq).1 hopening
    · rw [Text.afterStart?_append, Option.bind_eq_bind, Option.bind_some, hread]

end Order

end ContentQuery
