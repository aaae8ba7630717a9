import ContentQuery.Json.Criterion
import ContentQuery.Proofs.Repository.Landing
import ContentQuery.Proofs.Repository.Matching
import ContentQuery.Proofs.Repository.Tree
import ContentQuery.Query.Compiler

/-!
# Normalizing a path again

A path is normalized where a criterion is made or read, where a question is compiled and where nodes
are added, so that one path may be normalized several times. Blanks, the ending for every node below
and slashes are dropped once each, in this order, and what is left may end in a blank or in that
ending. Then another pass makes another path of it. Passes end, as each one only shortens the path.
-/

namespace ContentQuery

namespace Path

/-- A path after a number of passes. -/
def passes : ℕ → String → Result String
  | 0, path => .ok path
  | count + 1, path => do
    let normal ← normalize path
    passes count normal

/-- A path that scopes can be made of has a normal form, and begins with it. -/
theorem IsScope.exists_normalize {path : String} (h : IsScope path) :
    ∃ normal, normalize path = .ok normal ∧ normal.toList <+: path.toList := by
  have hhead : ∀ c ∈ path.toList.head?, c = '/' := by simp [h.absolute]
  have htrim : Text.trim path.toList <+: path.toList := by
    rw [trim_eq hhead]
    exact List.rdropWhile_prefix Text.isBlank path.toList
  have habsolute : (Text.trim path.toList).head? = some '/' := by
    have hne : Text.trim path.toList ≠ [] := by
      rw [trim_eq hhead, ne_eq, List.rdropWhile_eq_nil_iff]
      intro hall
      exact absurd (hall '/' (List.mem_of_mem_head? h.absolute)) (by decide)
    obtain ⟨rest, hrest⟩ := htrim
    have habsolute := h.absolute
    rwa [← hrest, List.head?_append_of_ne_nil _ hne] at habsolute
  have hunquoted : '\x27' ∉ Text.trim path.toList := fun hquote => h.unquoted (htrim.mem hquote)
  obtain ⟨normal, hnormal⟩ : ∃ normal, normalize path = .ok normal := by
    rw [normalize]
    simp only [habsolute, ne_eq, not_true_eq_false, if_false, List.contains_eq_mem, hunquoted,
      decide_false, Bool.false_eq_true]
    exact ⟨_, rfl⟩
  refine ⟨normal, hnormal, ?_⟩
  rw [eq_of_normalize hnormal]
  split
  · obtain ⟨rest, hrest⟩ := List.head?_eq_some_iff.mp h.absolute
    exact ⟨rest, hrest.symm⟩
  · rw [String.toList_ofList]
    exact stripped_prefix hhead

/-- Passes come to a path that no further pass changes. -/
theorem IsScope.exists_passes {path : String} (h : IsScope path) :
    ∃ count last, passes count path = .ok last ∧ normalize last = .ok last := by
  -- On the length of the path, since a pass that changes it leaves a shorter one.
  induction hlength : path.toList.length using Nat.strongRecOn generalizing path with
  | ind length ih =>
    subst hlength
    obtain ⟨normal, hnormal, hbegins⟩ := h.exists_normalize
    by_cases hsame : normal = path
    · exact ⟨0, path, rfl, hsame ▸ hnormal⟩
    · have hshorter : normal.toList.length < path.toList.length :=
        lt_of_le_of_ne hbegins.length_le fun heq =>
          hsame (String.toList_inj.mp (hbegins.eq_of_length heq))
      obtain ⟨count, last, hpasses, hlast⟩ := ih _ hshorter (isScope_of_normalize hnormal) rfl
      exact ⟨count + 1, last, by rw [passes, hnormal]; exact hpasses, hlast⟩

end Path

/-- A path is kept by the criterion that is made of it exactly if it is in normal form. -/
theorem Criterion.ofPath_eq_iff (path : String) :
    ofPath path = .ok (.descendantOf path) ↔ Path.normalize path = .ok path := by
  rw [ofPath, Result.map_eq_ok]
  simp

/-- A place below a path is read from its document through the checked constructor. -/
theorem Criterion.ofJson_descendantOf (path : String) {room : ℕ} (hroom : 0 < room) :
    ofJson room (descendantOf path).toJson = Read.ofResult (ofPath path) := by
  obtain ⟨more, rfl⟩ := Nat.exists_eq_add_of_lt hroom
  rw [Nat.zero_add]
  rfl

/-- A place below a path is read back from its document exactly if the path is in normal form. -/
theorem Criterion.ofJson_descendantOf_eq_iff (path : String) {room : ℕ} (hroom : 0 < room) :
    ofJson room (descendantOf path).toJson = .ok (descendantOf path) ↔
      Path.normalize path = .ok path := by
  rw [ofJson_descendantOf path hroom, ← ofPath_eq_iff]
  cases ofPath path <;> simp [Read.ofResult, Except.mapError]

/-- A path other than the root is kept as a base path exactly if it is in normal form. -/
theorem Config.checkedBase_eq_iff {path : String} (hroot : path ≠ Path.root) :
    checkedBase (some path) = .ok (some path) ↔ Path.normalize path = .ok path := by
  rw [checkedBase, Result.map_eq_ok]
  constructor
  · rintro ⟨normal, hnormal, hkept⟩
    split at hkept
    · cases hkept
    · rwa [Option.some.inj hkept] at hnormal
  · intro hsame
    exact ⟨path, hsame, if_neg (by simpa [Path.isRoot] using hroot)⟩

/-- What is added below a path is a child of that very path exactly if this is in normal form. -/
theorem Store.eq_child_of_add_iff {store next : Store} {base name primaryType path : String}
    (hbase : Path.IsScope base) (hadd : store.add base name primaryType = .ok (path, next)) :
    path = Path.child base name ↔ Path.normalize base = .ok base := by
  obtain ⟨normal, -, hname, hnormal, -, -, -, rfl, -⟩ := add_cases hadd
  rw [Path.child_inj (Path.isScope_of_normalize hnormal).ne_empty hbase.ne_empty
    (isStep_of_isNodeName hname), hnormal, Except.ok.injEq]

namespace Path

/-- A path that was normalized is changed by no other pass exactly if it is settled, and likewise
for whatever normalizes it again: it makes the same criterion, which is read back from its document,
it is the same base path of a question, and what is added below it is a child of it. Another pass
always succeeds and only takes characters off its end, and after some passes there is nothing more
to take. -/
theorem normalized_again_iff {path normal : String} (h : normalize path = .ok normal) :
    (normalize normal = .ok normal ↔ Settled normal) ∧
    (Criterion.ofPath normal = .ok (.descendantOf normal) ↔ Settled normal) ∧
    (∀ room, 0 < room →
      (Criterion.ofJson room (Criterion.descendantOf normal).toJson = .ok (.descendantOf normal) ↔
        Settled normal)) ∧
    (normal ≠ root → (Config.checkedBase (some normal) = .ok (some normal) ↔ Settled normal)) ∧
    (∀ store name primaryType path next,
      Store.add store normal name primaryType = .ok (path, next) →
        (path = child normal name ↔ Settled normal)) ∧
    (∃ again, normalize normal = .ok again ∧ again.toList <+: normal.toList) ∧
    ∃ count last, passes count normal = .ok last ∧ normalize last = .ok last := by
  have hscope := isScope_of_normalize h
  rw [← hscope.normalize_eq_self_iff]
  exact ⟨.rfl, Criterion.ofPath_eq_iff normal,
    fun room hroom => Criterion.ofJson_descendantOf_eq_iff normal hroom,
    fun hroot => Config.checkedBase_eq_iff hroot,
    fun store name primaryType path next hadd => Store.eq_child_of_add_iff hscope hadd,
    hscope.exists_normalize, hscope.exists_passes⟩

/-- A path with a blank before it and the ending for every node below is settled once it is
normalized. -/
theorem normalized_again_plain :
    normalize " /a b//*" = .ok "/a b" ∧ normalize "/a b" = .ok "/a b" ∧
    Criterion.ofJson 1 (Criterion.descendantOf "/a b").toJson = .ok (.descendantOf "/a b") ∧
    Config.checkedBase (some "/a b") = .ok (some "/a b") := by
  have h : normalize " /a b//*" = .ok "/a b" := by decide +kernel
  have hsettled : Settled "/a b" := by decide +kernel
  obtain ⟨hself, -, hread, hbase, -⟩ := normalized_again_iff h
  exact ⟨h, hself.mpr hsettled, (hread 1 Nat.one_pos).mpr hsettled,
    (hbase (by decide)).mpr hsettled⟩

/-- A normal form may have another normal form: what was before the ending for every node below ends
in a blank, or has that ending once more. These are paths of different places: a node may lie below
the second and not below the first. -/
theorem normalized_differs :
    (normalize "/a //*" = .ok "/a " ∧ normalize "/a " = .ok "/a") ∧
    (normalize "/a//*//*" = .ok "/a//*" ∧ normalize "/a//*" = .ok "/a") ∧
    (Criterion.descendantOf "/a").reduce.holds ⟨"/a/b", "t", []⟩ = true ∧
    (Criterion.descendantOf "/a ").reduce.holds ⟨"/a/b", "t", []⟩ = false ∧
    (Criterion.descendantOf "/a//*").reduce.holds ⟨"/a/b", "t", []⟩ = false := by
  decide +kernel

end Path

end ContentQuery
