import BindingStore.Text.Blank
import Mathlib.Data.List.DropRight

namespace BindingStore.Text

theorem trimStart_isSuffix (s : List Char) : trimStart s <:+ s := List.dropWhile_suffix isBlank

theorem trimEnd_isPrefix (s : List Char) : trimEnd s <+: s := List.rdropWhile_prefix isBlank s

theorem trim_isInfix (s : List Char) : trim s <:+: s :=
  (trimEnd_isPrefix (trimStart s)).isInfix.trans (trimStart_isSuffix s).isInfix

theorem length_trim_le (s : List Char) : (trim s).length ≤ s.length := (trim_isInfix s).length_le

theorem trimStart_eq_self_iff (s : List Char) :
    trimStart s = s ↔ ∀ c, s.head? = some c → isBlank c = false := by
  rw [trimStart, List.dropWhile_eq_self_iff]
  cases s <;> simp

theorem trimEnd_eq_self_iff (s : List Char) :
    trimEnd s = s ↔ ∀ c, s.getLast? = some c → isBlank c = false := by
  rw [show trimEnd s = s.rdropWhile isBlank from rfl, List.rdropWhile_eq_self_iff]
  cases s using List.reverseRecOn <;> simp

theorem trim_eq_self_iff (s : List Char) :
    trim s = s ↔ (∀ c, s.head? = some c → isBlank c = false) ∧
      ∀ c, s.getLast? = some c → isBlank c = false := by
  rw [← trimStart_eq_self_iff, ← trimEnd_eq_self_iff]
  constructor
  · intro kept
    have longer : s.length ≤ (trimStart s).length := by
      have short := (trimEnd_isPrefix (trimStart s)).length_le
      rwa [show trimEnd (trimStart s) = s from kept] at short
    have start : trimStart s = s := (trimStart_isSuffix s).eq_of_length_le longer
    rw [trim, start] at kept
    exact ⟨start, kept⟩
  · rintro ⟨start, rest⟩
    rw [trim, start, rest]

theorem head?_trim_not_blank {s : List Char} {c : Char} (head : (trim s).head? = some c) :
    isBlank c = false := by
  rcases trimEnd_isPrefix (trimStart s) with ⟨rest, split⟩
  have first : (trimStart s).head? = some c := by
    rw [← split, List.head?_append, show (trimEnd (trimStart s)).head? = _ from head]
    rfl
  have start := List.head?_dropWhile_not isBlank s
  rw [show (s.dropWhile isBlank).head? = some c from first] at start
  simpa using start

theorem getLast?_trim_not_blank {s : List Char} {c : Char} (last : (trim s).getLast? = some c) :
    isBlank c = false := by
  have reversed : ((trimStart s).reverse.dropWhile isBlank).head? = some c := by
    rw [← List.getLast?_reverse]
    exact last
  have start := List.head?_dropWhile_not isBlank (trimStart s).reverse
  rw [reversed] at start
  simpa using start

@[simp]
theorem trim_trim (s : List Char) : trim (trim s) = trim s :=
  (trim_eq_self_iff (trim s)).mpr ⟨fun _ => head?_trim_not_blank, fun _ => getLast?_trim_not_blank⟩

theorem trim_eq_nil_iff (s : List Char) : trim s = [] ↔ ∀ c ∈ s, isBlank c = true := by
  have start : trimStart s = [] ↔ ∀ c ∈ s, isBlank c = true := List.dropWhile_eq_nil_iff
  rw [← start]
  constructor
  · intro none
    have blank : ∀ c ∈ trimStart s, isBlank c = true := List.rdropWhile_eq_nil_iff.mp none
    cases found : trimStart s with
    | nil => rfl
    | cons c rest =>
        have head := List.head?_dropWhile_not isBlank s
        rw [show s.dropWhile isBlank = c :: rest from found] at head
        have white : isBlank c = true := blank c (by simp [found])
        simp [white] at head
  · intro none
    rw [trim, none]
    rfl

end BindingStore.Text
