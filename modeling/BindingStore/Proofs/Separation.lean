import BindingStore.Proofs.Trimming
import BindingStore.Text.Name
import Mathlib.Algebra.Group.Nat.Even

/-! Texts and their pieces. A separator ends a piece unless an odd number of colons stands before it,
so texts that are joined come apart where they were joined unless one of them ends in that many. -/

namespace BindingStore.Text

theorem isSeparated_iff_isInfix (s : List Char) : isSeparated s = true ↔ [':', ':'] <:+: s := by
  fun_induction isSeparated s with
  | case1 => simp
  | case2 rest => simp [List.infix_cons_iff]
  | case3 c rest apart ih =>
      have start : ¬ [':', ':'] <+: c :: rest := by
        rintro ⟨tail, split⟩
        rcases List.cons.inj split with ⟨rfl, rfl⟩
        exact apart _ rfl rfl
      rw [ih, List.infix_cons_iff, or_iff_right start]

theorem isSeparated_cons_of_apart {c : Char} {s : List Char}
    (apart : c = ':' → s.head? ≠ some ':') : isSeparated (c :: s) = isSeparated s := by
  apply isSeparated.eq_3
  rintro rest colon rfl
  exact apart colon rfl

theorem isSeparated_of_isInfix {part whole : List Char} (inside : part <:+: whole)
    (single : isSeparated whole = false) : isSeparated part = false := by
  rw [← Bool.not_eq_true, isSeparated_iff_isInfix] at single ⊢
  exact fun split => single (split.trans inside)

theorem isSeparated_append_colon_iff (s : List Char) :
    isSeparated (s ++ [':']) = false ↔ isSeparated s = false ∧ s.getLast? ≠ some ':' := by
  rw [← Bool.not_eq_true, ← Bool.not_eq_true, isSeparated_iff_isInfix, isSeparated_iff_isInfix,
    List.infix_concat_iff, not_or, and_comm]
  have last : [':', ':'] <:+ s ++ [':'] ↔ s.getLast? = some ':' := by
    constructor
    · rintro ⟨front, split⟩
      have same : front ++ [':'] = s := by
        have : (front ++ [':']) ++ [':'] = s ++ [':'] := by simpa using split
        exact List.append_cancel_right this
      rw [← same, List.getLast?_concat]
    · intro colon
      rcases List.getLast?_eq_some_iff.mp colon with ⟨front, rfl⟩
      exact ⟨front, by simp⟩
  rw [last]

def endColons (s : List Char) : Nat := (s.rtakeWhile (· == ':')).length

theorem endColons_concat_colon (s : List Char) : endColons (s ++ [':']) = endColons s + 1 := by
  rw [endColons, List.rtakeWhile_concat_pos _ _ _ (by decide), List.length_append]
  rfl

theorem endColons_concat_of_ne (s : List Char) {c : Char} (other : c ≠ ':') :
    endColons (s ++ [c]) = 0 := by
  rw [endColons, List.rtakeWhile_concat_neg _ _ _ (by simpa using other)]
  rfl

theorem endColons_of_colons {s : List Char} (colons : ∀ c ∈ s, c = ':') :
    endColons s = s.length := by
  have whole : s.rtakeWhile (· == ':') = s := by simpa [List.rtakeWhile_eq_self_iff] using colons
  rw [endColons, whole]

theorem endColons_cons_of_mem {c d : Char} {s : List Char} (member : d ∈ c :: s)
    (other : d ≠ ':') : endColons (c :: s) = endColons s := by
  induction s using List.reverseRecOn with
  | nil => exact endColons_concat_of_ne [] (List.mem_singleton.mp member ▸ other)
  | append_singleton s last ih =>
      rw [← List.cons_append]
      by_cases colon : last = ':'
      · subst colon
        have inside : d ∈ c :: s := by simpa [other] using member
        rw [endColons_concat_colon, endColons_concat_colon, ih inside]
      · rw [endColons_concat_of_ne _ colon, endColons_concat_of_ne _ colon]

theorem even_endColons_of_closed {s : List Char} (closed : s.getLast? ≠ some ':') :
    Even (endColons s) := by
  cases s using List.reverseRecOn with
  | nil => exact Even.zero
  | append_singleton s last =>
      rw [List.getLast?_concat] at closed
      rw [endColons_concat_of_ne s fun colon => closed (congrArg some colon)]
      exact Even.zero

theorem even_endColons_of_separator {s : List Char} (even : Even (endColons (':' :: ':' :: s))) :
    Even (endColons s) := by
  by_cases colons : ∀ c ∈ s, c = ':'
  · rw [endColons_of_colons (by simpa using colons), List.length_cons, List.length_cons,
      Nat.even_add_one, Nat.even_add_one, not_not] at even
    rwa [endColons_of_colons colons]
  · obtain ⟨d, member, other⟩ : ∃ d ∈ s, d ≠ ':' := by simpa using colons
    have inside : d ∈ ':' :: s := List.mem_cons_of_mem _ member
    rwa [endColons_cons_of_mem (List.mem_cons_of_mem _ inside) other,
      endColons_cons_of_mem inside other] at even

theorem even_endColons_of_apart {c : Char} {s : List Char}
    (apart : ∀ rest, c = ':' → s = ':' :: rest → False) (even : Even (endColons (c :: s))) :
    (c = ':' → s ≠ []) ∧ Even (endColons s) := by
  by_cases colon : c = ':'
  · subst colon
    cases s with
    | nil => exact absurd even (by decide)
    | cons d s =>
        have other : d ≠ ':' := by
          rintro rfl
          exact apart s rfl rfl
        rw [endColons_cons_of_mem (List.mem_cons_of_mem _ List.mem_cons_self) other] at even
        exact ⟨fun _ => List.cons_ne_nil d s, even⟩
  · rw [endColons_cons_of_mem List.mem_cons_self colon] at even
    exact ⟨fun same => absurd same colon, even⟩

/-- After an even number of colons the search for separators is where it would be at the start of a
text. -/
theorem pieces_append_of_even {front : List Char} (even : Even (endColons front))
    (back : List Char) : pieces (front ++ ':' :: ':' :: back) = pieces front ++ pieces back := by
  fun_induction pieces front with
  | case1 => rfl
  | case2 rest ih =>
      have next := ih (even_endColons_of_separator even)
      rw [List.cons_append, List.cons_append, pieces.eq_2, next, List.cons_append]
  | case3 c rest apart none ih => exact absurd none (pieces_ne_nil rest)
  | case4 c rest apart piece others found ih =>
      obtain ⟨more, even⟩ := even_endColons_of_apart apart even
      have unsplit : ∀ tail, c = ':' → rest ++ ':' :: ':' :: back = ':' :: tail → False := by
        intro tail colon split
        obtain ⟨d, rest, rfl⟩ := List.exists_cons_of_ne_nil (more colon)
        exact apart rest colon (by rw [(List.cons.inj split).1])
      rw [List.cons_append, pieces.eq_3 _ _ unsplit, ih even, found]
      rfl

theorem pieces_head_isPrefix {s piece : List Char} {others : List (List Char)}
    (found : pieces s = piece :: others) : piece <+: s := by
  fun_induction pieces s generalizing piece others with
  | case1 =>
      rcases List.cons.inj found with ⟨rfl, -⟩
      exact List.nil_prefix
  | case2 rest =>
      rcases List.cons.inj found with ⟨rfl, -⟩
      exact List.nil_prefix
  | case3 c rest apart none ih => exact absurd none (pieces_ne_nil rest)
  | case4 c rest apart first others split ih =>
      rcases List.cons.inj found with ⟨rfl, -⟩
      exact List.cons_prefix_cons.mpr ⟨rfl, ih split⟩

theorem isSeparated_of_mem_pieces {s piece : List Char} (member : piece ∈ pieces s) :
    isSeparated piece = false := by
  fun_induction pieces s generalizing piece with
  | case1 =>
      rw [List.mem_singleton.mp member]
      rfl
  | case2 rest ih =>
      rcases List.mem_cons.mp member with rfl | later
      · rfl
      · exact ih later
  | case3 c rest apart none ih => exact absurd none (pieces_ne_nil rest)
  | case4 c rest apart first others split ih =>
      rcases List.mem_cons.mp member with rfl | later
      · have inner : isSeparated first = false := ih (split ▸ List.mem_cons_self)
        rw [isSeparated_cons_of_apart, inner]
        intro colon head
        rcases List.head?_eq_some_iff.mp head with ⟨tail, same⟩
        rcases pieces_head_isPrefix split with ⟨more, whole⟩
        apply apart (tail ++ more) colon
        rw [← whole, same, List.cons_append]
      · exact ih (split ▸ List.mem_cons_of_mem _ later)

def joined (texts : List (List Char)) : List Char := [':', ':'].intercalate texts

@[simp]
theorem joined_nil : joined [] = [] := rfl

@[simp]
theorem joined_singleton (s : List Char) : joined [s] = s := List.intercalate_singleton

theorem joined_cons_of_ne_nil (s : List Char) {rest : List (List Char)} (more : rest ≠ []) :
    joined (s :: rest) = s ++ ':' :: ':' :: joined rest := by
  rw [joined, List.intercalate_cons_of_ne_nil more, List.append_assoc]
  rfl

@[simp]
theorem joined_cons_cons (s next : List Char) (rest : List (List Char)) :
    joined (s :: next :: rest) = s ++ ':' :: ':' :: joined (next :: rest) :=
  joined_cons_of_ne_nil s (List.cons_ne_nil next rest)

theorem joined_pieces (s : List Char) : joined (pieces s) = s := by
  fun_induction pieces s with
  | case1 => rfl
  | case2 rest ih => rw [joined_cons_of_ne_nil _ (pieces_ne_nil rest), ih, List.nil_append]
  | case3 c rest apart none ih => exact absurd none (pieces_ne_nil rest)
  | case4 c rest apart first others split ih =>
      rw [split] at ih
      rw [joined, List.intercalate_cons_cons_left]
      exact congrArg (c :: ·) ih

end BindingStore.Text
