import ContentQuery.Json.Decode
import ContentQuery.Proofs.Error

/-!
# Records of documents

A record is read field by field. What every field keeps true of the record under construction, from
whatever values it is read, is true of the record that is read. And members with the names of
fields are read one after the other, so that a written record is read back field by field.
-/

namespace ContentQuery

namespace Json

/-- Induction over documents: at an array, the hypothesis holds of each item, and at an object of
each value. -/
@[induction_eliminator]
theorem recOnParts {motive : Json → Prop} (null : motive .null)
    (boolean : ∀ b, motive (.boolean b)) (number : ∀ digits, motive (.number digits))
    (text : ∀ s, motive (.text s)) (array : ∀ items, (∀ item ∈ items, motive item) →
      motive (.array items))
    (object : ∀ members, (∀ member ∈ members, motive member.2) → motive (.object members))
    (broken : motive .broken) (j : Json) : motive j :=
  @Json.rec motive (fun items => ∀ item ∈ items, motive item)
    (fun members => ∀ member ∈ members, motive member.2) (fun member => motive member.2) null
    boolean number text array object broken (by simp)
    (fun _ _ hitem hrest => List.forall_mem_cons.mpr ⟨hitem, hrest⟩) (by simp)
    (fun _ _ hmember hrest => List.forall_mem_cons.mpr ⟨hmember, hrest⟩)
    (fun _ _ hvalue => hvalue) j

variable {ν ρ α : Type}

/-- Every result of reading a list comes from an item. -/
theorem exists_of_mem_eachOf {read : ν → Read α} {items : List ν} {results : List α}
    (h : eachOf read items = .ok results) {a : α} (ha : a ∈ results) :
    ∃ item ∈ items, read item = .ok a := by
  induction items generalizing results with
  | nil =>
    cases h
    cases ha
  | cons item rest ih =>
    obtain ⟨first, hfirst, h⟩ := Result.bind_eq_ok.mp h
    obtain ⟨others, hothers, h⟩ := Result.bind_eq_ok.mp h
    cases h
    rcases List.mem_cons.mp ha with rfl | ha
    · exact ⟨item, List.mem_cons_self, hfirst⟩
    · obtain ⟨other, hother, hread⟩ := ih hothers ha
      exact ⟨other, List.mem_cons_of_mem item hother, hread⟩

/-- A list is read back if each of its members is. -/
theorem eachOf_map {read : ν → Read α} {write : α → ν} {members : List α}
    (h : ∀ a ∈ members, read (write a) = .ok a) :
    eachOf read (members.map write) = .ok members := by
  induction members with
  | nil => rfl
  | cons a rest ih =>
    rw [List.map_cons, eachOf, h a List.mem_cons_self,
      ih fun b hb => h b (List.mem_cons_of_mem a hb)]
    rfl

/-- Where a list is read, each of its items is. -/
theorem exists_read_of_eachOf {read : ν → Read α} {items : List ν} {results : List α}
    (h : eachOf read items = .ok results) {item : ν} (hitem : item ∈ items) :
    ∃ a, read item = .ok a := by
  induction items generalizing results with
  | nil => cases hitem
  | cons first rest ih =>
    obtain ⟨a, hfirst, h⟩ := Result.bind_eq_ok.mp h
    obtain ⟨others, hothers, -⟩ := Result.bind_eq_ok.mp h
    rcases List.mem_cons.mp hitem with rfl | hitem
    · exact ⟨a, hfirst⟩
    · exact ih hothers hitem

/-- A field keeps a trait of the record under construction, from every value of some kind. -/
def Field.Keeps (field : Field ν ρ) (Kind : ν → Prop) (Trait : ρ → Prop) : Prop :=
  ∀ value record next, Kind value → Trait record → field.read value record = .ok next → Trait next

section Keeping

variable {Kind : ν → Prop} {Trait : ρ → Prop}

/-- A field that puts what is read into the record keeps what putting it there keeps. -/
theorem Field.keeps_put {name : String} {read : ν → Read α} {put : ρ → α → ρ}
    (hput : ∀ record a, Trait record → Trait (put record a)) :
    Field.Keeps ⟨name, fun value record => (read value).map (put record)⟩ Kind Trait := by
  intro value record next _ hrecord h
  obtain ⟨a, -, rfl⟩ := Result.map_eq_ok.mp h
  exact hput record a hrecord

/-- Members of an object keep what every field keeps. -/
theorem readMembers_keeps {fields : List (Field ν ρ)}
    (hfields : ∀ field ∈ fields, field.Keeps Kind Trait) {skips : ν → Bool}
    {seen last : List String}
    {record next : ρ} {members : List (Option String × ν)} (hkind : ∀ m ∈ members, Kind m.2)
    (hstart : Trait record) (h : readMembers fields skips seen record members = .ok (next, last)) :
    Trait next := by
  induction members generalizing seen record with
  | nil =>
    cases h
    exact hstart
  | cons member rest ih =>
    have hrest := fun m hm => hkind m (List.mem_cons_of_mem member hm)
    obtain ⟨key, value⟩ := member
    cases key with
    | none => cases h
    | some key =>
      rw [readMembers] at h
      split at h
      · next field hfind =>
        split at h
        · cases h
        · obtain ⟨changed, hread, h⟩ := Result.bind_eq_ok.mp h
          have hvalue := hkind _ List.mem_cons_self
          have hfield := hfields field (List.mem_of_find?_eq_some hfind)
          exact ih hrest (hfield value record changed hvalue hstart hread) h
      · split at h
        · exact ih hrest hstart h
        · cases h

/-- Items of an array keep what every field keeps. -/
theorem readItems_keeps {fields : List (Field ν ρ)}
    (hfields : ∀ field ∈ fields, field.Keeps Kind Trait) {seen last : List String}
    {record next : ρ} {items : List ν} (hkind : ∀ item ∈ items, Kind item)
    (hstart : Trait record) (h : readItems seen record fields items = .ok (next, last)) :
    Trait next := by
  induction items generalizing seen record fields with
  | nil =>
    cases fields <;> cases h <;> exact hstart
  | cons item rest ih =>
    cases fields with
    | nil => cases h
    | cons field others =>
      obtain ⟨changed, hread, h⟩ := Result.bind_eq_ok.mp h
      have hvalue := hkind item List.mem_cons_self
      have hchanged := hfields field List.mem_cons_self item record changed hvalue hstart hread
      exact ih (fun other hother => hfields other (List.mem_cons_of_mem field hother))
        (fun other hother => hkind other (List.mem_cons_of_mem item hother)) hchanged h

namespace Shape

variable {shape : Shape ν ρ} {record : ρ}

/-- A record of members has what it begins with and every field keeps. -/
theorem keeps_ofMembers (hfields : ∀ field ∈ shape.fields, field.Keeps Kind Trait)
    (hstart : Trait shape.start) {skips : ν → Bool} {members : List (Option String × ν)}
    (hkind : ∀ m ∈ members, Kind m.2) (h : shape.ofMembers skips members = .ok record) :
    Trait record := by
  obtain ⟨⟨next, seen⟩, hread, h⟩ := Result.bind_eq_ok.mp h
  have hnext := readMembers_keeps hfields hkind hstart hread
  dsimp only at h
  split at h
  · cases h
    exact hnext
  · cases h

/-- A record of items has what it begins with and every field keeps. -/
theorem keeps_ofItems (hfields : ∀ field ∈ shape.fields, field.Keeps Kind Trait)
    (hstart : Trait shape.start) {items : List ν} (hkind : ∀ item ∈ items, Kind item)
    (h : shape.ofItems items = .ok record) : Trait record := by
  obtain ⟨⟨next, seen⟩, hread, h⟩ := Result.bind_eq_ok.mp h
  have hnext := readItems_keeps hfields hkind hstart hread
  dsimp only at h
  split at h
  · cases h
    exact hnext
  · cases h

/-- A record that is read from any document has what it begins with and every field keeps. -/
theorem keeps_asRecord (Trait : ρ → Prop) {shape : Shape Json ρ}
    (hfields : ∀ field ∈ shape.fields, field.Keeps (fun _ => True) Trait)
    (hstart : Trait shape.start) {j : Json} (h : asRecord shape j = .ok record) :
    Trait record := by
  cases j with
  | object members => exact keeps_ofMembers hfields hstart (fun _ _ => trivial) h
  | array items => exact keeps_ofItems hfields hstart (fun _ _ => trivial) h
  | null | boolean | number | text | broken => cases h

end Shape

end Keeping

/-- Members that the fields with their names read into a record, one after the other. -/
inductive ReadsTo (fields : List (Field ν ρ)) : ρ → List (String × ν) → ρ → Prop
  | nil (record : ρ) : ReadsTo fields record [] record
  | cons {key : String} {value : ν} {members : List (String × ν)} {field : Field ν ρ}
    {record next last : ρ} (hfield : fields.find? (·.name = key) = some field)
    (hread : field.read value record = .ok next) (hrest : ReadsTo fields next members last) :
    ReadsTo fields record ((key, value) :: members) last

namespace ReadsTo

variable {fields : List (Field ν ρ)} {record next last : ρ} {members others : List (String × ν)}

/-- Members may be read in two parts. -/
theorem append (h : ReadsTo fields record members next)
    (hothers : ReadsTo fields next others last) :
    ReadsTo fields record (members ++ others) last := by
  induction h with
  | nil => exact hothers
  | cons hfield hread _ ih => exact .cons hfield hread (ih hothers)

/-- Such members are read as an object, if no name is there twice. -/
theorem readMembers_eq (h : ReadsTo fields record members last) (skips : ν → Bool)
    (seen : List String) (hnodup : (members.map Prod.fst).Nodup)
    (hnew : ∀ key ∈ members.map Prod.fst, key ∉ seen) :
    readMembers fields skips seen record (members.map fun m => (some m.1, m.2)) =
      .ok (last, (members.map Prod.fst).reverse ++ seen) := by
  induction h generalizing seen with
  | nil => rfl
  | @cons key value members field record next last hfield hread _ ih =>
    rw [List.map_cons, List.nodup_cons] at hnodup
    obtain ⟨hkey, hrest⟩ := List.forall_mem_cons.mp hnew
    have hothers : ∀ other ∈ members.map Prod.fst, other ∉ key :: seen := by
      intro other hother hmem
      rcases List.mem_cons.mp hmem with rfl | hmem
      · exact hnodup.1 hother
      · exact hrest other hother hmem
    have hseen : seen.contains key = false := by simpa using hkey
    rw [List.map_cons, readMembers, hfield]
    simp only [hseen, Bool.false_eq_true, if_false, hread]
    rw [List.map_cons, List.reverse_cons, List.append_assoc, List.singleton_append,
      ← ih (key :: seen) hnodup.2 hothers]
    rfl

/-- Such members are read as a record, if all that it needs is there. -/
theorem ofMembers_eq {shape : Shape ν ρ} (h : ReadsTo shape.fields shape.start members record)
    (skips : ν → Bool) (hnodup : (members.map Prod.fst).Nodup)
    (hneeded : ∀ name ∈ shape.needed, name ∈ members.map Prod.fst) :
    shape.ofMembers skips (members.map fun m => (some m.1, m.2)) = .ok record := by
  have hread := h.readMembers_eq skips [] hnodup (by simp)
  have hseen : haveSeen shape.needed ((members.map Prod.fst).reverse ++ []) = true := by
    rw [haveSeen, List.all_eq_true]
    intro name hname
    simpa using hneeded name hname
  rw [Shape.ofMembers, hread]
  exact if_pos hseen

end ReadsTo

/-- Where an object is read, each of its members with the name of a field is. -/
theorem exists_read_of_readMembers {fields : List (Field ν ρ)} {skips : ν → Bool}
    {seen : List String} {record : ρ} {result : ρ × List String}
    {members : List (Option String × ν)}
    (h : readMembers fields skips seen record members = .ok result) {key : String} {value : ν}
    (hmember : (some key, value) ∈ members) {field : Field ν ρ}
    (hfield : fields.find? (·.name = key) = some field) :
    ∃ before after, field.read value before = .ok after := by
  induction members generalizing seen record with
  | nil => cases hmember
  | cons member rest ih =>
    obtain ⟨other, first⟩ := member
    cases other with
    | none => cases h
    | some other =>
      rw [readMembers] at h
      split at h
      · next found hfound =>
        split at h
        · cases h
        · obtain ⟨changed, hread, h⟩ := Result.bind_eq_ok.mp h
          rcases List.mem_cons.mp hmember with heq | hmember
          · cases heq
            obtain rfl := Option.some.inj (hfield.symm.trans hfound)
            exact ⟨record, changed, hread⟩
          · exact ih h hmember
      · next hnone =>
        rcases List.mem_cons.mp hmember with heq | hmember
        · cases heq
          rw [hfield] at hnone
          cases hnone
        · split at h
          · exact ih h hmember
          · cases h

/-- Where a record is read from members, each of them with the name of a field is. -/
theorem Shape.exists_read_of_ofMembers {shape : Shape ν ρ} {skips : ν → Bool} {record : ρ}
    {members : List (Option String × ν)} (h : shape.ofMembers skips members = .ok record)
    {key : String} {value : ν} (hmember : (some key, value) ∈ members) {field : Field ν ρ}
    (hfield : shape.fields.find? (·.name = key) = some field) :
    ∃ before after, field.read value before = .ok after := by
  obtain ⟨result, hread, -⟩ := Result.bind_eq_ok.mp h
  exact exists_read_of_readMembers hread hmember hfield

end Json

end ContentQuery
