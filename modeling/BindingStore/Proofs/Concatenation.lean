import BindingStore.Proofs.ConstructedPaths

namespace BindingStore

namespace Text

theorem exists_concat_of_odd {s : List Char} (odd : ¬ Even (endColons s)) :
    ∃ front, s = front ++ [':'] ∧ Even (endColons front) := by
  cases s using List.reverseRecOn with
  | nil => exact absurd (by decide) odd
  | append_singleton front last =>
      by_cases colon : last = ':'
      · subst colon
        rw [endColons_concat_colon, Nat.even_add_one, not_not] at odd
        exact ⟨front, rfl, odd⟩
      · rw [endColons_concat_of_ne front colon] at odd
        exact absurd Even.zero odd

theorem words_append_of_odd {front : List Char} (odd : ¬ Even (endColons front)) :
    words (front ++ ':' :: ':' :: ['b']) ≠ words front ++ words ['b'] := by
  obtain ⟨stem, rfl, even⟩ := exists_concat_of_odd odd
  have moved : stem ++ [':'] ++ ':' :: ':' :: ['b'] = stem ++ ':' :: ':' :: [':', 'b'] := by simp
  have colonB : IsWord [':', 'b'] := ⟨by decide, by decide, by decide⟩
  have b : IsWord ['b'] := ⟨by decide, by decide, by decide⟩
  rw [moved, words_append_of_even even, words_of_isWord colonB, words_of_isWord b]
  intro same
  have lasts := congrArg List.getLast? same
  simp at lasts

end Text

open Text (endColons joined words separator)

namespace ScopePath

theorem segmentsOf_append_separator_iff (s t : String) :
    segmentsOf (s ++ separator ++ t) = segmentsOf s ++ segmentsOf t ↔
      words (s.toList ++ ':' :: ':' :: t.toList) = words s.toList ++ words t.toList := by
  have parts : (s ++ separator ++ t).toList = s.toList ++ ':' :: ':' :: t.toList := by
    simp [separator]
  rw [segmentsOf_eq_words, segmentsOf_eq_words, segmentsOf_eq_words, parts, ← List.map_append]
  exact (List.map_injective_iff.mpr (fun _ _ => String.ofList_inj.mp)).eq_iff

theorem ofText_append_separator_iff (s : String) :
    (∀ t, ofText (s ++ separator ++ t) = (ofText s).append t) ↔ Even (endColons s.toList) := by
  have whole (t : String) : ofText (s ++ separator ++ t) = (ofText s).append t ↔
      segmentsOf (s ++ separator ++ t) = segmentsOf s ++ segmentsOf t := by
    rw [ofText, ofText, append, ScopePath.mk.injEq]
  simp only [whole, segmentsOf_append_separator_iff]
  constructor
  · intro apart
    by_contra odd
    exact Text.words_append_of_odd odd (apart "b")
  · intro even t
    exact Text.words_append_of_even even t.toList

theorem ofTexts_eq_foldl_append (texts : List String) :
    ofTexts texts = texts.foldl append root := by
  induction texts using List.reverseRecOn with
  | nil => rfl
  | append_singleton texts s ih =>
      rw [ofTexts_concat, List.foldl_append, List.foldl_cons, List.foldl_nil, ih]

theorem ofText_intercalate {texts : List String}
    (even : ∀ text ∈ texts.dropLast, Even (endColons text.toList)) :
    ofText (separator.intercalate texts) = ofTexts texts := by
  have joins : (separator.intercalate texts).toList = joined (texts.map String.toList) :=
    toList_text ⟨texts⟩
  have read : words (joined (texts.map String.toList)) =
      (texts.map String.toList).flatMap words := by
    apply Text.words_joined_of_even
    simpa [← List.map_dropLast] using even
  rw [ofText, segmentsOf_eq_words, joins, read, List.flatMap_map, List.map_flatMap]
  rfl

/-- Several texts make one path, whether they are read one by one or appended one after another, and
also joined, where none before the last ends in an odd number of colons. To a text that does end so,
some text makes one path when it is appended and another when it is joined. -/
theorem constructions_agree :
    (∀ texts, ofTexts texts = texts.foldl append root) ∧
      (∀ texts : List String, (∀ text ∈ texts.dropLast, Even (endColons text.toList)) →
        ofText (separator.intercalate texts) = ofTexts texts) ∧
      ∀ s, (∀ t, ofText (s ++ separator ++ t) = (ofText s).append t) ↔
        Even (endColons s.toList) := by
  refine ⟨ofTexts_eq_foldl_append, ?_, ofText_append_separator_iff⟩
  intro texts even
  exact ofText_intercalate even

theorem constructions_agree_padded :
    (∀ text ∈ ["::a::::", "", " b:: c ", " "], Even (endColons text.toList)) ∧
      ofText (separator.intercalate ["::a::::", "", " b:: c ", " ", ":d:"]) =
        ofTexts ["::a::::", "", " b:: c ", " ", ":d:"] := by
  have even : ∀ text ∈ ["::a::::", "", " b:: c ", " "], Even (endColons text.toList) := by decide
  exact ⟨even, constructions_agree.2.1 ["::a::::", "", " b:: c ", " ", ":d:"] even⟩

example : ofTexts ["a:", "b"] = ⟨["a:", "b"]⟩ ∧ ofText "a:::b" = ⟨["a", ":b"]⟩ := by decide

end ScopePath

end BindingStore
