import BindingStore.Proofs.ConstructedPaths

namespace BindingStore

namespace Text

/-- A list of words, and the list where one colon has gone to the next word but lone colons. -/
inductive Shifted : List (List Char) → List (List Char) → Prop where
  | intro (front : List (List Char)) {left right : List Char} (count : Nat)
      (back : List (List Char)) (closed : IsWord left) (colonAfter : IsWord (left ++ [':']))
      (opened : IsWord right) (colonBefore : IsWord (':' :: right)) :
      Shifted (front ++ (left ++ [':']) :: (List.replicate count [':'] ++ right :: back))
        (front ++ left :: (List.replicate count [':'] ++ (':' :: right) :: back))

/-- Some colon could belong to another word. -/
def HasLooseColon (texts : List (List Char)) : Prop :=
  ∃ others, Shifted texts others ∨ Shifted others texts

theorem IsWord.head?_not_blank {word : List Char} (isWord : IsWord word) {c : Char}
    (head : word.head? = some c) : isBlank c = false :=
  ((trim_eq_self_iff word).mp isWord.trimmed).1 c head

theorem IsWord.getLast?_not_blank {word : List Char} (isWord : IsWord word) {c : Char}
    (last : word.getLast? = some c) : isBlank c = false :=
  ((trim_eq_self_iff word).mp isWord.trimmed).2 c last

theorem IsWord.head?_ne_colon {word : List Char} (isWord : IsWord (':' :: word)) :
    word.head? ≠ some ':' := by
  intro colon
  rcases List.head?_eq_some_iff.mp colon with ⟨rest, rfl⟩
  have single := isWord.single
  simp [isSeparated] at single

theorem IsWord.cons_colon {word : List Char} (isWord : IsWord word)
    (apart : word.head? ≠ some ':') : IsWord (':' :: word) := by
  refine ⟨List.cons_ne_nil _ _, ?_, (trim_eq_self_iff _).mpr ⟨?_, ?_⟩⟩
  · rw [isSeparated_cons_of_apart fun _ => apart]
    exact isWord.single
  · intro c head
    cases head
    decide
  · intro c last
    rw [List.getLast?_cons_of_ne_nil isWord.nonempty] at last
    exact isWord.getLast?_not_blank last

theorem IsWord.of_cons_colon {word : List Char} (isWord : IsWord (':' :: word))
    (nonempty : word ≠ []) (start : ∀ c, word.head? = some c → isBlank c = false) :
    IsWord word := by
  have inside : word <:+: ':' :: word := (List.suffix_cons ':' word).isInfix
  refine ⟨nonempty, isSeparated_of_isInfix inside isWord.single,
    (trim_eq_self_iff word).mpr ⟨start, ?_⟩⟩
  intro c last
  rw [← List.getLast?_cons_of_ne_nil nonempty] at last
  exact isWord.getLast?_not_blank last

theorem joined_colons_cons (count : Nat) (right : List Char) (back : List (List Char)) :
    joined (List.replicate count [':'] ++ (':' :: right) :: back) =
      ':' :: joined (List.replicate count [':'] ++ right :: back) := by
  induction count with
  | zero => exact List.intercalate_cons_cons_left
  | succ count ih =>
      have more (word : List Char) : List.replicate count [':'] ++ word :: back ≠ [] := by simp
      rw [List.replicate_succ, List.cons_append, List.cons_append,
        joined_cons_of_ne_nil _ (more _), joined_cons_of_ne_nil _ (more _), ih]
      rfl

theorem joined_append_congr (front : List (List Char)) {a b : List (List Char)} (aSome : a ≠ [])
    (bSome : b ≠ []) (same : joined a = joined b) : joined (front ++ a) = joined (front ++ b) := by
  induction front with
  | nil => exact same
  | cons word front ih =>
      have more {rest : List (List Char)} (some : rest ≠ []) : front ++ rest ≠ [] := by simp [some]
      rw [List.cons_append, List.cons_append, joined_cons_of_ne_nil _ (more aSome),
        joined_cons_of_ne_nil _ (more bSome), ih]

theorem Shifted.joined_eq {a b : List (List Char)} (shifted : Shifted a b) :
    joined a = joined b := by
  rcases shifted with @⟨front, left, right, count, back, -, -, -, -⟩
  apply joined_append_congr front (List.cons_ne_nil _ _) (List.cons_ne_nil _ _)
  have more (word : List Char) : List.replicate count [':'] ++ word :: back ≠ [] := by simp
  calc
    joined ((left ++ [':']) :: (List.replicate count [':'] ++ right :: back)) =
        left ++ [':'] ++ ':' :: ':' :: joined (List.replicate count [':'] ++ right :: back) :=
      joined_cons_of_ne_nil _ (more right)
    _ = left ++ ':' :: ':' :: joined (List.replicate count [':'] ++ (':' :: right) :: back) := by
      rw [joined_colons_cons, List.append_assoc]
      rfl
    _ = joined (left :: (List.replicate count [':'] ++ (':' :: right) :: back)) :=
      (joined_cons_of_ne_nil left (more _)).symm

theorem Shifted.ne {a b : List (List Char)} (shifted : Shifted a b) : a ≠ b := by
  rcases shifted with ⟨front, count, back, -, -, -, -⟩
  intro same
  have heads := (List.cons.inj (List.append_cancel_left same)).1
  simp at heads

theorem Shifted.isWord_iff {a b : List (List Char)} (shifted : Shifted a b) :
    (∀ word ∈ a, IsWord word) ↔ ∀ word ∈ b, IsWord word := by
  rcases shifted with ⟨front, count, back, closed, colonAfter, opened, colonBefore⟩
  simp only [List.forall_mem_append, List.forall_mem_cons, closed, colonAfter, opened, colonBefore]

theorem Shifted.cons (word : List Char) {a b : List (List Char)} (shifted : Shifted a b) :
    Shifted (word :: a) (word :: b) := by
  rcases shifted with ⟨front, count, back, closed, colonAfter, opened, colonBefore⟩
  exact .intro (word :: front) count back closed colonAfter opened colonBefore

theorem HasLooseColon.cons (word : List Char) {texts : List (List Char)}
    (loose : HasLooseColon texts) : HasLooseColon (word :: texts) := by
  rcases loose with ⟨others, ahead | behind⟩
  · exact ⟨word :: others, .inl (ahead.cons word)⟩
  · exact ⟨word :: others, .inr (behind.cons word)⟩

def following : List (List Char) → List Char
  | [] => []
  | next :: rest => ':' :: ':' :: joined (next :: rest)

theorem joined_cons (s : List Char) (rest : List (List Char)) :
    joined (s :: rest) = s ++ following rest := by
  cases rest with
  | nil => simp [following]
  | cons next rest => exact joined_cons_cons s next rest

theorem joined_eq_of_following_eq {p q : List (List Char)} (same : following p = following q) :
    joined p = joined q := by
  cases p <;> cases q <;> simp_all [following]

theorem eq_nil_of_joined_eq_nil {p : List (List Char)} (isWord : ∀ word ∈ p, IsWord word)
    (none : joined p = []) : p = [] := by
  cases p with
  | nil => rfl
  | cons first rest =>
      rw [joined_cons] at none
      exact absurd (List.append_eq_nil_iff.mp none).1 (isWord first List.mem_cons_self).nonempty

theorem following_eq_append {p q : List (List Char)} {surplus : List Char}
    (single : isSeparated surplus = false) (same : following p = surplus ++ following q) :
    (surplus = [] ∧ joined p = joined q) ∨
      (surplus = [':'] ∧ p ≠ [] ∧ q ≠ [] ∧ joined p = ':' :: joined q) := by
  cases surplus with
  | nil => exact .inl ⟨rfl, joined_eq_of_following_eq same⟩
  | cons c surplus =>
      cases p with
      | nil => simp [following] at same
      | cons pHead pTail =>
          rcases List.cons.inj same with ⟨rfl, rest⟩
          cases surplus with
          | cons d surplus =>
              rcases List.cons.inj rest with ⟨rfl, -⟩
              simp [isSeparated] at single
          | nil =>
              cases q with
              | nil => simp [following] at rest
              | cons qHead qTail =>
                  exact .inr ⟨rfl, List.cons_ne_nil _ _, List.cons_ne_nil _ _,
                    (List.cons.inj rest).2⟩

theorem head?_joined_cons {word : List Char} (nonempty : word ≠ []) (rest : List (List Char)) :
    (joined (word :: rest)).head? = word.head? := by
  rw [joined_cons, List.head?_append_of_ne_nil _ nonempty]

/-- Where one text is a colon longer than another in front, the colon moves through lone colons to
the first word that is longer than one. -/
theorem exists_colons_of_joined_eq_cons {p q : List (List Char)} (pWords : ∀ word ∈ p, IsWord word)
    (qWords : ∀ word ∈ q, IsWord word) (pSome : p ≠ []) (qSome : q ≠ [])
    (same : joined p = ':' :: joined q) :
    ∃ (count : Nat) (right next : List Char) (pBack qBack : List (List Char)),
      p = List.replicate count [':'] ++ (':' :: right) :: pBack ∧
      q = List.replicate count [':'] ++ next :: qBack ∧
      IsWord right ∧ IsWord (':' :: next) := by
  induction p generalizing q with
  | nil => exact absurd rfl pSome
  | cons first pRest ih =>
      rcases List.exists_cons_of_ne_nil qSome with ⟨next, qRest, rfl⟩
      rcases List.forall_mem_cons.mp pWords with ⟨firstWord, pLater⟩
      rcases List.forall_mem_cons.mp qWords with ⟨nextWord, qLater⟩
      have head : first.head? = some ':' := by
        rw [← head?_joined_cons firstWord.nonempty pRest, same]
        rfl
      rcases List.head?_eq_some_iff.mp head with ⟨right, rfl⟩
      have tail : right ++ following pRest = next ++ following qRest := by
        rw [joined_cons, List.cons_append, joined_cons] at same
        exact (List.cons.inj same).2
      by_cases lone : right = []
      · subst lone
        -- A separator follows, so the other list starts with a lone colon too.
        rcases following_eq_append nextWord.single tail with
          ⟨none, -⟩ | ⟨rfl, pMore, qMore, rest⟩
        · exact absurd none nextWord.nonempty
        · obtain ⟨count, right, next, pBack, qBack, pParts, qParts, opened, colonBefore⟩ :=
            ih pLater qLater pMore qMore rest
          refine ⟨count + 1, right, next, pBack, qBack, ?_, ?_, opened, colonBefore⟩
          · rw [pParts, List.replicate_succ, List.cons_append]
          · rw [qParts, List.replicate_succ, List.cons_append]
      · have start : right.head? = next.head? := by
          rw [← List.head?_append_of_ne_nil right lone, tail,
            List.head?_append_of_ne_nil next nextWord.nonempty]
        have apart : next.head? ≠ some ':' := start ▸ firstWord.head?_ne_colon
        refine ⟨0, right, next, pRest, qRest, rfl, rfl, ?_, nextWord.cons_colon apart⟩
        apply firstWord.of_cons_colon lone
        intro c head
        exact nextWord.head?_not_blank (start ▸ head)

theorem hasLooseColon_of_surplus {word surplus : List Char} {p q : List (List Char)}
    (short : IsWord word) (long : IsWord (word ++ surplus)) (pWords : ∀ word ∈ p, IsWord word)
    (qWords : ∀ word ∈ q, IsWord word) (same : following p = surplus ++ following q) :
    (surplus = [] ∧ joined p = joined q) ∨
      (HasLooseColon (word :: p) ∧ HasLooseColon ((word ++ surplus) :: q)) := by
  have single : isSeparated surplus = false :=
    isSeparated_of_isInfix (List.suffix_append word surplus).isInfix long.single
  rcases following_eq_append single same with level | ⟨rfl, pMore, qMore, later⟩
  · exact .inl level
  · right
    obtain ⟨count, right, next, pBack, qBack, rfl, rfl, opened, colonBefore⟩ :=
      exists_colons_of_joined_eq_cons pWords qWords pMore qMore later
    have colonRight : IsWord (':' :: right) := pWords (':' :: right) (by simp)
    have openedNext : IsWord next := qWords next (by simp)
    constructor
    · exact ⟨_, .inr (.intro [] count pBack short long opened colonRight)⟩
    · exact ⟨_, .inl (.intro [] count qBack short long openedNext colonBefore)⟩

theorem hasLooseColon_of_joined_eq {p q : List (List Char)} (pWords : ∀ word ∈ p, IsWord word)
    (qWords : ∀ word ∈ q, IsWord word) (same : joined p = joined q) (differ : p ≠ q) :
    HasLooseColon p := by
  induction p generalizing q with
  | nil =>
      rw [joined_nil] at same
      exact absurd (eq_nil_of_joined_eq_nil qWords same.symm).symm differ
  | cons first pRest ih =>
      rcases List.forall_mem_cons.mp pWords with ⟨firstWord, pLater⟩
      cases q with
      | nil =>
          rw [joined_nil] at same
          exact absurd (eq_nil_of_joined_eq_nil pWords same) (List.cons_ne_nil _ _)
      | cons next qRest =>
          rcases List.forall_mem_cons.mp qWords with ⟨nextWord, qLater⟩
          rw [joined_cons, joined_cons] at same
          -- One of the two first words starts the other, and what it lacks is at most a colon.
          rcases List.append_eq_append_iff.mp same with ⟨surplus, rfl, rest⟩ | ⟨surplus, rfl, rest⟩
          · rcases hasLooseColon_of_surplus firstWord nextWord pLater qLater rest with
              ⟨rfl, later⟩ | ⟨loose, -⟩
            · apply HasLooseColon.cons
              apply ih pLater qLater later
              rintro rfl
              exact differ (by rw [List.append_nil])
            · exact loose
          · rcases hasLooseColon_of_surplus nextWord firstWord qLater pLater rest with
              ⟨rfl, later⟩ | ⟨-, loose⟩
            · apply HasLooseColon.cons
              apply ih pLater qLater later.symm
              rintro rfl
              exact differ (by rw [List.append_nil])
            · exact loose

/-- The list that has the loose colon at the other word. -/
theorem HasLooseColon.exists_rival {texts : List (List Char)} (loose : HasLooseColon texts)
    (isWord : ∀ text ∈ texts, IsWord text) :
    ∃ rival, (∀ text ∈ rival, IsWord text) ∧ joined texts = joined rival ∧ texts ≠ rival := by
  rcases loose with ⟨rival, ahead | behind⟩
  · exact ⟨rival, ahead.isWord_iff.mp isWord, ahead.joined_eq, ahead.ne⟩
  · exact ⟨rival, behind.isWord_iff.mpr isWord, behind.joined_eq.symm, behind.ne.symm⟩

end Text

open Text (IsWord Shifted HasLooseColon joined)

namespace ScopePath

theorem text_eq_iff_joined_eq (p q : ScopePath) :
    p.text = q.text ↔
      joined (p.segments.map String.toList) = joined (q.segments.map String.toList) := by
  rw [← toList_text, ← toList_text, String.toList_inj]

/-- A path made from texts is the only one with its text where it has no colon that could belong to
another segment, and there alone. -/
theorem text_determines_iff {p : ScopePath} (made : Constructed p) :
    (∀ q, Constructed q → p.text = q.text → p = q) ↔
      ¬ HasLooseColon (p.segments.map String.toList) := by
  have pWords := (normal_iff_isWord p).mp made.normal
  constructor
  · intro alone loose
    rcases loose.exists_rival pWords with ⟨rival, rivalWords, sameText, differ⟩
    have segments : (rival.map String.ofList).map String.toList = rival := by simp
    have other : Constructed ⟨rival.map String.ofList⟩ := by
      rw [constructed_iff_normal, normal_iff_isWord]
      exact segments.symm ▸ rivalWords
    have same := alone _ other ((text_eq_iff_joined_eq _ _).mpr (segments.symm ▸ sameText))
    apply differ
    rw [same, segments]
  · intro fixed q other sameText
    by_contra differ
    apply fixed
    refine Text.hasLooseColon_of_joined_eq pWords ((normal_iff_isWord q).mp other.normal)
      ((text_eq_iff_joined_eq p q).mp sameText) ?_
    intro equal
    have segments : p.segments = q.segments :=
      List.map_injective_iff.mpr (fun _ _ => String.toList_inj.mp) equal
    apply differ
    cases p
    cases q
    exact congrArg ScopePath.mk segments

/-- The colon of `a:::b` belongs to `a` or to `b`. -/
theorem text_of_loose_colon :
    Constructed (ofTexts ["a:", "b"]) ∧
      ¬ ∀ q, Constructed q → (ofTexts ["a:", "b"]).text = q.text → ofTexts ["a:", "b"] = q := by
  have made : Constructed (ofTexts ["a:", "b"]) := .ofTexts ["a:", "b"]
  have a : IsWord ['a'] := ⟨by decide, by decide, by decide⟩
  have aColon : IsWord ['a', ':'] := ⟨by decide, by decide, by decide⟩
  have b : IsWord ['b'] := ⟨by decide, by decide, by decide⟩
  have colonB : IsWord [':', 'b'] := ⟨by decide, by decide, by decide⟩
  refine ⟨made, fun alone => (text_determines_iff made).mp alone ?_⟩
  exact ⟨[['a'], [':', 'b']], .inl (Shifted.intro [] 0 [] a aColon b colonB)⟩

end ScopePath

end BindingStore
