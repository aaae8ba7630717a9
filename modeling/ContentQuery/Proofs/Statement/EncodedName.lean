import ContentQuery.Statement.EncodedName
import Mathlib.Data.List.Basic

/-!
# Characters of encoded names

An encoded name has characters of names only, and an encoded path has slashes beside them. So
nothing in it can be taken for another part of a statement.
-/

namespace ContentQuery

namespace EncodedName

/-- The characters of a written number are its digits. -/
theorem exists_digit_of_mem_toDigits {base n : ℕ} (hbase : 1 < base) {c : Char}
    (h : c ∈ Nat.toDigits base n) : ∃ d < base, c = Nat.digitChar d := by
  induction n using Nat.strongRecOn with
  | ind n ih =>
    rw [Nat.toDigits_eq_if hbase] at h
    split at h
    · next hlt => exact ⟨n, hlt, List.mem_singleton.mp h⟩
    · next hle =>
      rcases List.mem_append.mp h with h | h
      · exact ih (n / base) (Nat.div_lt_self (by omega) hbase) h
      · exact ⟨n % base, Nat.mod_lt _ (by omega), List.mem_singleton.mp h⟩

/-- The digits of a code point are those of some number below sixteen each. -/
theorem exists_digit_of_mem_codeDigits {c d : Char} (h : d ∈ codeDigits c) :
    ∃ n < 16, d = (Nat.digitChar n).toUpper := by
  rcases List.mem_append.mp h with h | h
  · exact ⟨0, by decide, List.eq_of_mem_replicate h⟩
  · obtain ⟨e, he, rfl⟩ := List.mem_map.mp h
    obtain ⟨n, hn, rfl⟩ := exists_digit_of_mem_toDigits (by decide) he
    exact ⟨n, hn, rfl⟩

/-- Hexadecimal digits may be part of a name. -/
theorem isNameChar_digit : ∀ d < 16, isNameChar (Nat.digitChar d).toUpper = true := by
  decide

/-- The digits of a code point may be part of a name. -/
theorem isNameChar_of_mem_codeDigits {c d : Char} (h : d ∈ codeDigits c) : isNameChar d = true := by
  obtain ⟨n, hn, rfl⟩ := exists_digit_of_mem_codeDigits h
  exact isNameChar_digit n hn

/-- An encoded character consists of characters of names. -/
theorem isNameChar_of_mem_encodeChar {c d : Char} (h : d ∈ encodeChar c) :
    isNameChar d = true := by
  rw [encodeChar, List.mem_cons, List.mem_cons, List.mem_append, List.mem_singleton] at h
  rcases h with rfl | rfl | h | rfl
  · rfl
  · rfl
  · exact isNameChar_of_mem_codeDigits h
  · rfl

/-- A first character that is kept is legal, and otherwise an encoded one stands there. -/
theorem isNameChar_of_mem_encodeFirst {legal : Char → Bool}
    (hlegal : ∀ c, legal c = true → isNameChar c = true) {c d : Char} {rest : List Char}
    (h : d ∈ encodeFirst legal c rest) : isNameChar d = true := by
  rw [encodeFirst] at h
  split at h
  · next hkept =>
    rw [List.mem_singleton.mp h]
    exact hlegal c (Bool.and_eq_true_iff.mp hkept).1
  · exact isNameChar_of_mem_encodeChar h

/-- An encoded name consists of characters of names. -/
theorem isNameChar_of_mem_encode {s : List Char} {d : Char} (h : d ∈ encode s) :
    isNameChar d = true := by
  have hrest (s : List Char) (hd : d ∈ encodeRest s) : isNameChar d = true := by
    induction s with
    | nil => cases hd
    | cons c s ih =>
      rcases List.mem_append.mp hd with hd | hd
      · exact isNameChar_of_mem_encodeFirst (fun _ => id) hd
      · exact ih hd
  cases s with
  | nil => cases h
  | cons c s =>
    rcases List.mem_append.mp h with h | h
    · refine isNameChar_of_mem_encodeFirst (fun c hc => ?_) h
      simp [isNameChar, hc]
    · exact hrest s h

/-- An encoded path consists of slashes and characters of names. -/
theorem mem_encodePath {path : String} {d : Char} (h : d ∈ (encodePath path).toList) :
    d = '/' ∨ isNameChar d = true := by
  have hjoin (names : List (List Char)) (hnames : ∀ name ∈ names, ∀ c ∈ name, isNameChar c = true)
      (hd : d ∈ (['/'] : List Char).intercalate names) : d = '/' ∨ isNameChar d = true := by
    induction names with
    | nil => cases hd
    | cons name others ih =>
      have hothers := ih fun other hother => hnames other (List.mem_cons_of_mem name hother)
      cases others with
      | nil =>
        rw [List.intercalate_singleton] at hd
        exact .inr (hnames name List.mem_cons_self d hd)
      | cons next others =>
        rw [List.intercalate_cons_cons, List.mem_append, List.mem_append, List.mem_singleton] at hd
        rcases hd with (hd | hd) | hd
        · exact .inr (hnames name List.mem_cons_self d hd)
        · exact .inl hd
        · exact hothers hd
  rw [encodePath, String.toList_ofList] at h
  refine hjoin _ (fun name hname c hc => ?_) h
  obtain ⟨piece, -, rfl⟩ := List.mem_map.mp hname
  exact isNameChar_of_mem_encode hc

end EncodedName

end ContentQuery
