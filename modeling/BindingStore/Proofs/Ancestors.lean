import BindingStore.Proofs.Declarations
import Mathlib.Data.List.Iterate

namespace BindingStore.ScopePath

open Text (IsName)

theorem parent_concat (front : List String) (last : String) :
    parent ⟨front ++ [last]⟩ = ⟨front⟩ := by
  rw [parent, List.dropLast_concat]

theorem name?_concat (front : List String) (last : String) :
    name? ⟨front ++ [last]⟩ = some last :=
  List.getLast?_concat

theorem parent_iterate (front back : List String) :
    parent^[back.length] ⟨front ++ back⟩ = ⟨front⟩ := by
  induction back using List.reverseRecOn with
  | nil =>
      rw [List.append_nil]
      rfl
  | append_singleton back last ih =>
      calc
        parent^[(back ++ [last]).length] ⟨front ++ (back ++ [last])⟩ =
            parent^[back.length] (parent ⟨(front ++ back) ++ [last]⟩) := by
          rw [List.length_append, List.length_singleton, Function.iterate_succ_apply,
            List.append_assoc]
        _ = parent^[back.length] ⟨front ++ back⟩ := by rw [parent_concat]
        _ = ⟨front⟩ := ih

theorem names_iterate_parent (front back : List String) :
    (List.iterate parent ⟨front ++ back⟩ back.length).map name? = back.reverse.map some := by
  induction back using List.reverseRecOn with
  | nil => rfl
  | append_singleton back last ih =>
      rw [List.length_append, List.length_singleton, List.iterate, ← List.append_assoc,
        List.map_cons, name?_concat, parent_concat, ih, List.reverse_concat, List.map_cons]

theorem append_name_parent_iff {p : ScopePath} {name : String} (found : p.name? = some name) :
    p.parent.append name = p ↔ IsName name := by
  rcases p with ⟨segments⟩
  rcases List.getLast?_eq_some_iff.mp found with ⟨front, rfl⟩
  rw [parent_concat, append, ScopePath.mk.injEq, List.append_cancel_left_eq]
  exact segmentsOf_eq_singleton_iff name

/-- As many steps up as a text has segments undo appending it, whatever path it was appended to, and
the names met on the way are its segments from the last to the first. In a path made from texts, a
step up is undone by appending the name that it took off. -/
theorem append_parent_undo :
    (∀ (p : ScopePath) (s : String),
      parent^[(ofText s).length] (p.append s) = p ∧
      (List.iterate parent (p.append s) (ofText s).length).map name? =
        (ofText s).segments.reverse.map some) ∧
    ∀ p : ScopePath, Constructed p → p.isRoot = false →
      ∃ name, p.name? = some name ∧ p.parent.append name = p := by
  constructor
  · intro p s
    exact ⟨parent_iterate p.segments (segmentsOf s), names_iterate_parent p.segments (segmentsOf s)⟩
  · intro p made nonempty
    have some : p.segments ≠ [] := (isRoot_eq_false_iff p).mp nonempty
    have found : p.name? = .some (p.segments.getLast some) := List.getLast?_eq_some_getLast some
    refine ⟨_, found, (append_name_parent_iff found).mpr ?_⟩
    exact made.normal _ (List.getLast_mem some)

theorem append_parent_undo_colons :
    Constructed (ofTexts ["a:", ":b:"]) ∧ (ofTexts ["a:", ":b:"]).isRoot = false ∧
      ∃ name, (ofTexts ["a:", ":b:"]).name? = some name ∧
        (ofTexts ["a:", ":b:"]).parent.append name = ofTexts ["a:", ":b:"] := by
  have made : Constructed (ofTexts ["a:", ":b:"]) := .ofTexts ["a:", ":b:"]
  have nonempty : (ofTexts ["a:", ":b:"]).isRoot = false := by decide
  exact ⟨made, nonempty, append_parent_undo.2 _ made nonempty⟩

end BindingStore.ScopePath
