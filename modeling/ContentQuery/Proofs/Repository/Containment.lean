import ContentQuery.Proofs.Repository.Matcher
import ContentQuery.Proofs.Text.Words

/-!
# Searching for words

A search for a text finds the nodes that have every word of it among the words of the searched
property, or of all properties if the node itself is searched. So a search is decided by the set of
the words that are looked for: texts one behind the other look for the words of both, and their
order, their repetition and what separates them do not matter.
-/

namespace ContentQuery

/-- The value of a name is listed under the name. -/
theorem Properties.mem_of_get? {name : String} {properties : Properties} {v : Value}
    (h : get? name properties = some v) : (name, v) ∈ properties := by
  induction properties with
  | nil => cases h
  | cons entry rest ih =>
    obtain ⟨other, value⟩ := entry
    rw [get?] at h
    split at h
    · next heq =>
      obtain rfl := heq
      obtain rfl := Option.some.inj h
      exact List.mem_cons_self
    · exact List.mem_cons_of_mem _ (ih h)

namespace Node

/-- Whether a search for the words of a text in a property finds a node. -/
def finds (n : Node) (p : Property) (text : String) : Bool :=
  (Criterion.containment p text).reduce.holds n

/-- A value that is searched under a property reference: that of the property, or any value of the
node if the node itself is searched. -/
def IsSearched (n : Node) (p : Property) (v : Value) : Prop :=
  if p.isNode then ∃ name, (name, v) ∈ n.entry.properties else n.property? p.name = some v

/-- A search in the node itself searches all that a search in a property does. -/
theorem IsSearched.node {n : Node} {p : Property} {v : Value} (h : n.IsSearched p v) :
    n.IsSearched .node v := by
  rw [IsSearched] at h
  split at h
  · exact h
  · exact ⟨p.name, Properties.mem_of_get? h⟩

/-- The words that a search looks at are those of the searched values. -/
theorem hasWord_iff {n : Node} {p : Property} {word : List Char} :
    n.HasWord p word ↔ ∃ v, n.IsSearched p v ∧ Text.IsWord v.lexical.toList word := by
  simp only [HasWord, IsSearched, wordsOf, Text.mem_words_iff]
  split
  · constructor
    · rintro ⟨⟨name, v⟩, hentry, hword⟩
      exact ⟨v, ⟨name, hentry⟩, hword⟩
    · rintro ⟨v, ⟨name, hentry⟩, hword⟩
      exact ⟨(name, v), hentry, hword⟩
  · rfl

/-- A node is found if the text has a word, and every word of it is one of a searched value. -/
theorem finds_iff {n : Node} {p : Property} {text : String} :
    n.finds p text = true ↔ (∃ word, Text.IsWord text.toList word) ∧
      ∀ word, Text.IsWord text.toList word →
        ∃ v, n.IsSearched p v ∧ Text.IsWord v.lexical.toList word := by
  rw [finds, Criterion.holds_reduce_iff, Criterion.Meets, HasWords]
  simp only [hasWord_iff, Text.mem_words_iff, ne_eq, Text.words_eq_nil_iff, Text.exists_isWord_iff]
  simp

/-- Texts that have the same words find the same nodes. -/
theorem finds_congr {s t : String}
    (h : ∀ word, Text.IsWord s.toList word ↔ Text.IsWord t.toList word) (n : Node) (p : Property) :
    n.finds p s = n.finds p t := by
  rw [Bool.eq_iff_iff, finds_iff, finds_iff]
  simp only [h]

/-- A text behind another one and a blank has the words of both. -/
theorem isWord_append_iff {a b : String} {word : List Char} :
    Text.IsWord (a ++ " " ++ b).toList word ↔
      Text.IsWord a.toList word ∨ Text.IsWord b.toList word := by
  have hblank : Text.isWordChar ' ' = false := by decide
  have htext : (a ++ " " ++ b).toList = a.toList ++ ' ' :: b.toList := by simp
  rw [htext, ← Text.mem_words_iff, Text.words_append hblank, List.mem_append, Text.mem_words_iff,
    Text.mem_words_iff]

/-- What is found by a search for two texts with words, one behind the other, is what the searches
for both find. -/
theorem finds_append_iff {n : Node} {p : Property} {a b : String}
    (ha : ∃ c ∈ a.toList, Text.isWordChar c = true)
    (hb : ∃ c ∈ b.toList, Text.isWordChar c = true) :
    n.finds p (a ++ " " ++ b) = true ↔ n.finds p a = true ∧ n.finds p b = true := by
  have hfirst := Text.exists_isWord_iff.mpr ha
  have hsecond := Text.exists_isWord_iff.mpr hb
  simp only [finds_iff, isWord_append_iff, exists_or, hfirst, hsecond, or_self, true_and]
  constructor
  · intro h
    exact ⟨fun word hword => h word (.inl hword), fun word hword => h word (.inr hword)⟩
  · rintro ⟨hall, hmore⟩ word (hword | hword)
    · exact hall word hword
    · exact hmore word hword

/-- What is found by a search in a property is found in the node itself. -/
theorem finds_node {n : Node} {p : Property} {t : String} (h : n.finds p t = true) :
    n.finds .node t = true := by
  obtain ⟨hsome, hall⟩ := finds_iff.mp h
  refine finds_iff.mpr ⟨hsome, fun word hword => ?_⟩
  obtain ⟨v, hv, hfound⟩ := hall word hword
  exact ⟨v, hv.node, hfound⟩

/-- Searching for words. The search is prepared under every engine, and what is prepared finds the
same nodes. It finds a node if the text has a word, and every word of it is one of a searched value,
whatever the type of that value. Hence a search for two texts with words, one behind the other,
finds what the searches for both find; texts with the same words find the same; and what is found in
a property is found in the node itself. -/
theorem finds_by_words (n : Node) (p : Property) :
    (∀ (engine : ExpressionEngine) (t : String), ∃ m,
      Matcher.ofReduced engine (Criterion.containment p t).reduce = .ok m ∧
        Matcher.accepts n m = n.finds p t) ∧
    (∀ t : String, n.finds p t = true ↔ (∃ word, Text.IsWord t.toList word) ∧
      ∀ word, Text.IsWord t.toList word →
        ∃ v, n.IsSearched p v ∧ Text.IsWord v.lexical.toList word) ∧
    (∀ a b : String, (∃ c ∈ a.toList, Text.isWordChar c = true) →
      (∃ c ∈ b.toList, Text.isWordChar c = true) →
        (n.finds p (a ++ " " ++ b) = true ↔ n.finds p a = true ∧ n.finds p b = true)) ∧
    (∀ s t : String, (∀ word, Text.IsWord s.toList word ↔ Text.IsWord t.toList word) →
      n.finds p s = n.finds p t) ∧
    ∀ t : String, n.finds p t = true → n.finds .node t = true :=
  ⟨fun _ t => ⟨_, rfl, Matcher.accepts_contains n p t⟩, fun _ => finds_iff,
    fun _ _ ha hb => finds_append_iff ha hb, fun _ _ h => finds_congr h n p, fun _ => finds_node⟩

/-- Capitals that end in a sigma and a number between signs are found together in a node with a text
and an integer, and not in its text alone. -/
theorem finds_by_words_mixed :
    let n : Node := ⟨"/a", "t", [("title", .text "η οδος μου"), ("size", .long 5)]⟩
    (∃ c ∈ "ΟΔΟΣ".toList, Text.isWordChar c = true) ∧
    (∃ c ∈ "(5)".toList, Text.isWordChar c = true) ∧
    n.finds .node ("ΟΔΟΣ" ++ " " ++ "(5)") = true ∧ n.finds ⟨"title"⟩ "ΟΔΟΣ" = true ∧
    n.finds ⟨"title"⟩ ("ΟΔΟΣ" ++ " " ++ "(5)") = false := by
  intro n
  obtain ⟨-, -, hboth, -, -⟩ := finds_by_words n .node
  obtain ⟨-, -, htitle, -, hnode⟩ := finds_by_words n ⟨"title"⟩
  have hfirst : ∃ c ∈ "ΟΔΟΣ".toList, Text.isWordChar c = true := ⟨'Δ', by decide, by decide⟩
  have hsecond : ∃ c ∈ "(5)".toList, Text.isWordChar c = true := ⟨'5', by decide, by decide⟩
  have hfound : n.finds ⟨"title"⟩ "ΟΔΟΣ" = true := by decide +kernel
  refine ⟨hfirst, hsecond, (hboth _ _ hfirst hsecond).mpr ⟨hnode _ hfound, by decide +kernel⟩,
    hfound, Bool.eq_false_iff.mpr fun h => ?_⟩
  exact absurd ((htitle _ _ hfirst hsecond).mp h).2 (by decide +kernel)

end Node

end ContentQuery
