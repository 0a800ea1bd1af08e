import BindingStore.Proofs.Separation

/-! The words of a text: its trimmed pieces, without the blank ones. Joined words are shorter than
the text unless it held nothing else, and they read back as they are unless one before the last ends
in a colon. -/

namespace BindingStore.Text

structure IsWord (s : List Char) : Prop where
  nonempty : s ≠ []
  single : isSeparated s = false
  trimmed : trim s = s

def words (s : List Char) : List (List Char) :=
  ((pieces s).map trim).filter fun piece => !piece.isEmpty

theorem isWord_of_mem_words {s word : List Char} (member : word ∈ words s) : IsWord word := by
  rcases List.mem_filter.mp member with ⟨trimmed, kept⟩
  rcases List.mem_map.mp trimmed with ⟨piece, found, rfl⟩
  refine ⟨by simpa using kept, ?_, trim_trim piece⟩
  exact isSeparated_of_isInfix (trim_isInfix piece) (isSeparated_of_mem_pieces found)

@[simp]
theorem words_nil : words [] = [] := by simp [words, pieces]

theorem words_of_isWord {s : List Char} (word : IsWord s) : words s = [s] := by
  rw [words, (pieces_eq_singleton_iff s).mpr word.single, List.map_singleton, word.trimmed]
  simp [word.nonempty]

theorem words_of_single {s : List Char} (single : isSeparated s = false) :
    words s = if trim s = [] then [] else [trim s] := by
  rw [words, (pieces_eq_singleton_iff s).mpr single]
  by_cases blank : trim s = [] <;> simp [blank]

theorem words_append_of_even {front : List Char} (even : Even (endColons front))
    (back : List Char) : words (front ++ ':' :: ':' :: back) = words front ++ words back := by
  rw [words, pieces_append_of_even even, List.map_append, List.filter_append]
  rfl

theorem words_append_separator {front : List Char} (apart : isSeparated (front ++ [':']) = false)
    (back : List Char) : words (front ++ ':' :: ':' :: back) = words front ++ words back :=
  words_append_of_even
    (even_endColons_of_closed ((isSeparated_append_colon_iff front).mp apart).2) back

theorem words_joined_of_even {texts : List (List Char)}
    (even : ∀ text ∈ texts.dropLast, Even (endColons text)) :
    words (joined texts) = texts.flatMap words := by
  induction texts with
  | nil => exact words_nil
  | cons text rest ih =>
      by_cases last : rest = []
      · subst last
        simp
      · rw [List.dropLast_cons_of_ne_nil last, List.forall_mem_cons] at even
        rw [joined_cons_of_ne_nil text last, words_append_of_even even.1, ih even.2,
          List.flatMap_cons]

def kept (texts : List (List Char)) : List (List Char) :=
  (texts.map trim).filter fun text => !text.isEmpty

theorem words_eq_kept (s : List Char) : words s = kept (pieces s) := rfl

theorem kept_cons (text : List Char) (rest : List (List Char)) :
    kept (text :: rest) = if trim text = [] then kept rest else trim text :: kept rest := by
  by_cases blank : trim text = [] <;> simp [kept, blank]

/-- The length of joined texts, had the last a separator after it too. -/
def joinedSize : List (List Char) → Nat
  | [] => 0
  | text :: rest => text.length + 2 + joinedSize rest

theorem length_joined (texts : List (List Char)) :
    (joined texts).length = joinedSize texts - 2 := by
  induction texts with
  | nil => rfl
  | cons text rest ih =>
      cases rest with
      | nil => simp [joinedSize]
      | cons next rest =>
          rw [joined_cons_cons, List.length_append, List.length_cons, List.length_cons, ih]
          simp only [joinedSize]
          omega

theorem kept_eq_or_joinedSize_lt (texts : List (List Char)) :
    kept texts = texts ∨ joinedSize (kept texts) < joinedSize texts := by
  induction texts with
  | nil => exact .inl rfl
  | cons text rest ih =>
      have noLarger : joinedSize (kept rest) ≤ joinedSize rest := by
        rcases ih with same | smaller
        · rw [same]
        · exact smaller.le
      rw [kept_cons, joinedSize]
      by_cases blank : trim text = []
      · rw [if_pos blank]
        exact .inr (by omega)
      · rw [if_neg blank, joinedSize]
        rcases (length_trim_le text).eq_or_lt with sameLength | shorter
        · have trimmed : trim text = text := (trim_isInfix text).eq_of_length sameLength
          rw [trimmed]
          rcases ih with same | smaller
          · exact .inl (by rw [same])
          · exact .inr (by omega)
        · exact .inr (by omega)

/-- Joined words are shorter than the text that they were read from, unless it held nothing else. -/
theorem words_eq_pieces_or_length_lt {s : List Char} (some : s ≠ []) :
    words s = pieces s ∨ (joined (words s)).length < s.length := by
  rcases kept_eq_or_joinedSize_lt (pieces s) with same | smaller
  · exact .inl same
  · right
    have whole : s.length = joinedSize (pieces s) - 2 := by rw [← length_joined, joined_pieces]
    have positive : 0 < s.length := List.length_pos_iff.mpr some
    rw [length_joined, words_eq_kept]
    omega

theorem length_joined_words_le (s : List Char) : (joined (words s)).length ≤ s.length := by
  by_cases none : s = []
  · simp [none]
  · rcases words_eq_pieces_or_length_lt none with same | shorter
    · rw [same, joined_pieces]
    · exact shorter.le

/-- What follows a word that ends in a colon cannot give the word back: reading leaves the colon to
the next piece, and the text of that piece is too short. -/
theorem words_joined_ne_of_colon {word : List Char} {rest : List (List Char)} (isWord : IsWord word)
    (colon : word.getLast? = some ':') (more : rest ≠ []) :
    words (joined (word :: rest)) ≠ word :: rest := by
  rcases List.getLast?_eq_some_iff.mp colon with ⟨front, rfl⟩
  have text : joined ((front ++ [':']) :: rest) = front ++ ':' :: ':' :: (':' :: joined rest) := by
    rw [joined_cons_of_ne_nil _ more, List.append_assoc]
    rfl
  have single : isSeparated front = false :=
    ((isSeparated_append_colon_iff front).mp isWord.single).1
  rw [text, words_append_separator isWord.single, words_of_single single]
  intro same
  by_cases blank : trim front = []
  · rw [if_pos blank, List.nil_append] at same
    have shorter := length_joined_words_le (':' :: joined rest)
    rw [same, text] at shorter
    simp only [List.length_append, List.length_cons] at shorter
    omega
  · rw [if_neg blank, List.singleton_append] at same
    have shorter := length_trim_le front
    rw [(List.cons.inj same).1, List.length_append, List.length_singleton] at shorter
    omega

theorem words_joined_eq_iff {texts : List (List Char)} (isWord : ∀ text ∈ texts, IsWord text) :
    words (joined texts) = texts ↔ ∀ text ∈ texts.dropLast, text.getLast? ≠ some ':' := by
  induction texts with
  | nil => simp
  | cons word rest ih =>
      rcases List.forall_mem_cons.mp isWord with ⟨first, later⟩
      by_cases last : rest = []
      · subst last
        simp [words_of_isWord first]
      · rw [List.dropLast_cons_of_ne_nil last, List.forall_mem_cons]
        by_cases colon : word.getLast? = some ':'
        · have differs := words_joined_ne_of_colon first colon last
          exact ⟨fun same => absurd same differs, fun none => absurd colon none.1⟩
        · have apart : isSeparated (word ++ [':']) = false :=
            (isSeparated_append_colon_iff word).mpr ⟨first.single, colon⟩
          rw [joined_cons_of_ne_nil word last, words_append_separator apart, words_of_isWord first,
            List.singleton_append, List.cons_eq_cons, ih later]
          simp [colon]

end BindingStore.Text
