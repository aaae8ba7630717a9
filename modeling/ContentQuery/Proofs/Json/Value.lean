import ContentQuery.Json.Query
import ContentQuery.Proofs.Criterion.WellFormed
import ContentQuery.Proofs.Json.Depth
import ContentQuery.Proofs.Time.Instant

/-!
# Simple values are read back

Integers, names, texts, properties and sort keys are read back from their documents, and so are
values other than doubles.
-/

namespace ContentQuery

namespace Json

/-- An integer of 64 bits is read back in every range that has it. -/
theorem asIntIn_ofInt {n low high : ℤ} (h : FitsWord n) (hlow : low ≤ n) (hhigh : n < high) :
    asIntIn low high (ofInt n) = .ok n := by
  rw [ofInt, asIntIn, integer?_toString h]
  exact if_pos ⟨hlow, hhigh⟩

/-- The integers of 64 bits with a sign. -/
theorem bounds_int64 (n : Int64) : -longLimit ≤ n.toInt ∧ n.toInt < longLimit :=
  ⟨Int64.le_toInt n, Int64.toInt_lt n⟩

/-- They can be written. -/
theorem fitsWord_int64 (n : Int64) : FitsWord n.toInt := by
  obtain ⟨hlow, hhigh⟩ := bounds_int64 n
  simp only [longLimit] at hlow hhigh
  exact ⟨hlow, by simp only [wordCount]; omega⟩

/-- An integer with a sign is read back. -/
theorem asLong_ofInt (n : Int64) : asLong (ofInt n.toInt) = .ok n := by
  obtain ⟨hlow, hhigh⟩ := bounds_int64 n
  rw [asLong, asIntIn_ofInt (fitsWord_int64 n) hlow hhigh, Except.map, Int64.ofInt_toInt]

/-- A number of rows is read back. -/
theorem asCount_ofNat {n : ℕ} (h : n < wordCount) : asCount (ofNat n) = .ok n := by
  have hword : FitsWord n := ⟨by omega, by exact_mod_cast h⟩
  rw [ofNat_eq_ofInt, asCount, asIntIn_ofInt hword (by omega) hword.high]
  rfl

/-- A number of rows that may be absent is read back. -/
theorem asOptionalCount_ofNat {n : ℕ} (h : n < wordCount) :
    asOptionalCount (ofNat n) = .ok (some n) := by
  have hcount := asCount_ofNat h
  rw [ofNat] at hcount ⊢
  rw [asOptionalCount, hcount]
  · rfl
  · exact Json.noConfusion

/-- A text that may be absent is read back. -/
theorem asOptionalString_ofOption (s : Option String) : asOptionalString (ofOption s) = .ok s := by
  cases s <;> rfl

/-- What the text of an instant stands for is read. -/
theorem asInstant_ofString {s : String} {t : Instant} (h : Instant.ofText? s = some t) :
    asInstant (ofString s) = .ok t := by
  refine Result.bind_eq_ok.mpr ⟨s, rfl, ?_⟩
  simp only [h]
  rfl

end Json

/-- An accepted property is read back. -/
theorem Property.Accepted.ofJson_toJson {p : Property} (h : p.Accepted) : ofJson p.toJson = .ok p :=
  congrArg Read.ofResult h.ofName_describe

/-- A sort key that was made from a name is what its shown form stands for. -/
theorem SortKey.ofName_describe {name : String} {key : SortKey} (h : ofName name = .ok key) :
    ofName key.describe = .ok key := by
  obtain ⟨p, hp, h⟩ := Result.bind_eq_ok.mp h
  have hkey := h
  rw [ofProperty] at h
  split at h
  · cases h
  · split at h
    · cases h
      rfl
    · obtain rfl := Except.ok.inj h
      have hshown : Property.ofName p.describe = .ok p :=
        Property.Accepted.ofName_describe ⟨name, hp⟩
      rw [describe, ofName, hshown]
      exact hkey

namespace Value

/-- A value that is read back: no double, and an instant only if its leap second, if it has one,
ends a minute. -/
def IsExact : Value → Prop
  | double _ => False
  | date t => t.InRange ∧ t.IsTimely
  | _ => True

/-- Such a value is written as a plain document. -/
theorem IsExact.plain_toJson {v : Value} (h : v.IsExact) : v.toJson.Plain := by
  cases v with
  | text s => exact .record (by simpa using .text s)
  | long n => exact .record (by simpa using .integer (Json.fitsWord_int64 n))
  | double x => cases h
  | boolean b => exact .record (by simpa using .boolean b)
  | date t => exact .record (by simpa using .text _)

/-- Such a value is read back. -/
theorem IsExact.ofJson_toJson {v : Value} (h : v.IsExact) : ofJson v.toJson = .ok v := by
  cases v with
  | text s => rfl
  | long n => exact congrArg (Except.map long) (Json.asLong_ofInt n)
  | double x => cases h
  | boolean b => rfl
  | date t =>
    obtain ⟨hrange, htimely⟩ := h
    have htext := Instant.ofText?_write_eq_shown .exact hrange
    rw [Instant.shown_exact_eq_iff.mpr htimely] at htext
    have hread : ofTyped "date" (.ofString (t.write .exact)) = .ok (date t) := by
      rw [ofTyped, Json.asInstant_ofString htext, Except.map]
    exact hread

end Value

end ContentQuery
