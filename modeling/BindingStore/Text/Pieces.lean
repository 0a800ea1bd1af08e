/-! The pieces of a text between its separators `::`. Separators are found from the left and do
not overlap, so of three colons the first two separate. -/

namespace BindingStore.Text

def separator : String := "::"

def pieces : List Char → List (List Char)
  | [] => [[]]
  | ':' :: ':' :: rest => [] :: pieces rest
  | c :: rest =>
    match pieces rest with
    | [] => [[c]]
    | piece :: others => (c :: piece) :: others

def isSeparated : List Char → Bool
  | [] => false
  | ':' :: ':' :: _ => true
  | _ :: rest => isSeparated rest

theorem pieces_ne_nil (s : List Char) : pieces s ≠ [] := by
  fun_cases pieces s <;> simp_all

theorem pieces_eq_singleton_iff (s : List Char) : pieces s = [s] ↔ isSeparated s = false := by
  fun_induction pieces s with
  | case1 => simp [isSeparated]
  | case2 rest => simp [isSeparated]
  | case3 c rest apart none ih => exact absurd none (pieces_ne_nil rest)
  | case4 c rest apart piece others found ih =>
    rw [isSeparated.eq_3 _ _ apart, ← ih, found]
    simp

end BindingStore.Text
