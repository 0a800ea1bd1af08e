import BindingStore.Declaration
import BindingStore.Proofs.ConstructedPaths
import Mathlib.Data.Set.Function

namespace BindingStore

open Text (IsName IsWord words joined separator)

namespace ScopePath

theorem segmentsOf_text_eq_iff (p : ScopePath) (segments : List String) :
    segmentsOf p.text = segments ↔
      words (joined (p.segments.map String.toList)) = segments.map String.toList := by
  rw [segmentsOf_eq_words, toList_text]
  constructor
  · rintro rfl
    simp
  · intro same
    rw [same]
    simp

theorem ofText_text_eq_iff {p : ScopePath} (normal : p.Normal) :
    ofText p.text = p ↔
      ∀ segment ∈ p.segments.dropLast, segment.toList.getLast? ≠ some ':' := by
  have whole : ofText p.text = p ↔ segmentsOf p.text = p.segments := by
    cases p
    exact ScopePath.mk.injEq _ _ ▸ Iff.rfl
  rw [whole, segmentsOf_text_eq_iff, Text.words_joined_eq_iff ((normal_iff_isWord p).mp normal)]
  simp [← List.map_dropLast]

/-- The paths that can be read back from their texts. A colon that ends the last segment does no
harm, since no separator follows it. -/
structure Legible (p : ScopePath) : Prop where
  normal : p.Normal
  closed : ∀ segment ∈ p.segments.dropLast, segment.toList.getLast? ≠ some ':'

theorem normal_of_ofText_text_eq {p : ScopePath} (same : ofText p.text = p) : p.Normal := by
  have made : Constructed (ofText p.text) := .ofText p.text
  rw [same] at made
  exact made.normal

theorem ofText_text_eq_iff_legible (p : ScopePath) : ofText p.text = p ↔ p.Legible := by
  constructor
  · intro same
    have normal := normal_of_ofText_text_eq same
    exact ⟨normal, (ofText_text_eq_iff normal).mp same⟩
  · rintro ⟨normal, closed⟩
    exact (ofText_text_eq_iff normal).mpr closed

end ScopePath

namespace VarId

def path (id : VarId) : ScopePath := ⟨id.scope.segments ++ [id.name]⟩

theorem normal_path_iff (id : VarId) : id.path.Normal ↔ id.scope.Normal ∧ IsName id.name := by
  simp [path, ScopePath.Normal, or_imp, forall_and]

theorem text_eq_text_path (id : VarId) : id.text = id.path.text := by
  rcases id with ⟨name, scope⟩
  rcases scope with ⟨segments⟩
  cases segments with
  | nil => simp [text, path, ScopePath.text, ScopePath.isRoot]
  | cons first rest =>
      have joins : separator.intercalate ((first :: rest) ++ [name]) =
          separator.intercalate (first :: rest) ++ separator ++ separator.intercalate [name] :=
        String.intercalate_append_of_ne_nil (List.cons_ne_nil _ _) (List.cons_ne_nil _ _)
      rw [String.intercalate_singleton] at joins
      exact joins.symm

theorem ofText_eq_ok_iff (s : String) (id : VarId) :
    ofText s = .ok id ↔ ScopePath.ofText s = id.path := by
  rcases id with ⟨name, scope⟩
  rcases scope with ⟨segments⟩
  cases found : (ScopePath.ofText s).name? with
  | none =>
      have empty : ScopePath.segmentsOf s = [] := List.getLast?_eq_none_iff.mp found
      simp only [ofText, found]
      simp [path, ScopePath.ofText, empty]
  | some last =>
      rcases List.getLast?_eq_some_iff.mp found with ⟨front, split⟩
      rw [ScopePath.segments_ofText] at split
      simp only [ofText, found]
      simp [path, ScopePath.parent, ScopePath.ofText, split, and_comm]

/-- Of the ids that can be declared, those read back from their texts whose scope has no segment
that ends in a colon. -/
theorem ofText_text_declared_iff {name : String} {scope : ScopePath} {id : VarId}
    (made : ScopePath.Constructed scope) (declared : declare name scope = .ok id) :
    ofText id.text = .ok id ↔
      ∀ segment ∈ scope.segments, segment.toList.getLast? ≠ some ':' := by
  rcases declare_eq_ok_iff.mp declared with ⟨isName, rfl⟩
  have normal : (path ⟨name, scope⟩).Normal := by
    intro segment member
    rcases List.mem_append.mp member with inScope | last
    · exact made.normal segment inScope
    · rw [List.mem_singleton.mp last]
      exact isName
  rw [ofText_eq_ok_iff, text_eq_text_path, ScopePath.ofText_text_eq_iff normal]
  simp [path]

theorem ofText_text_declared_colon :
    ScopePath.Constructed (.ofText "a:") ∧ declare "b" (.ofText "a:") = .ok ⟨"b", .ofText "a:"⟩ ∧
      ofText (text ⟨"b", .ofText "a:"⟩) ≠ .ok ⟨"b", .ofText "a:"⟩ := by
  have made : ScopePath.Constructed (.ofText "a:") := .ofText "a:"
  have declared : declare "b" (.ofText "a:") = .ok ⟨"b", .ofText "a:"⟩ := by decide
  refine ⟨made, declared, fun same => ?_⟩
  have clear := (ofText_text_declared_iff made declared).mp same
  exact absurd (clear "a:" (by decide)) (by decide)

/-- The ids that can be read back from their texts. The name follows the scope, so no segment of
the scope may end in a colon. -/
structure Legible (id : VarId) : Prop where
  name : IsName id.name
  scope : id.scope.Normal
  closed : ∀ segment ∈ id.scope.segments, segment.toList.getLast? ≠ some ':'

theorem legible_path_iff (id : VarId) : id.path.Legible ↔ id.Legible := by
  constructor
  · rintro ⟨normal, closed⟩
    rcases id.normal_path_iff.mp normal with ⟨scope, name⟩
    exact ⟨name, scope, by simpa [path] using closed⟩
  · rintro ⟨name, scope, closed⟩
    exact ⟨id.normal_path_iff.mpr ⟨scope, name⟩, by simpa [path] using closed⟩

theorem ofText_text_eq_ok_iff_legible (id : VarId) : ofText id.text = .ok id ↔ id.Legible := by
  rw [ofText_eq_ok_iff, text_eq_text_path, ScopePath.ofText_text_eq_iff_legible, legible_path_iff]

end VarId

/-- A path or an id reads back from its text exactly where it is legible, whatever its segments
hold, and no two that are legible share a text. -/
theorem reads_back_iff_legible :
    (∀ p : ScopePath, ScopePath.ofText p.text = p ↔ p.Legible) ∧
      (∀ id : VarId, VarId.ofText id.text = .ok id ↔ id.Legible) ∧
      Set.InjOn ScopePath.text {p | p.Legible} ∧ Set.InjOn VarId.text {id | id.Legible} := by
  refine ⟨ScopePath.ofText_text_eq_iff_legible, VarId.ofText_text_eq_ok_iff_legible, ?_, ?_⟩
  · have undone : Set.LeftInvOn ScopePath.ofText ScopePath.text {p | p.Legible} := by
      intro p legible
      exact (ScopePath.ofText_text_eq_iff_legible p).mpr legible
    exact undone.injOn
  · intro a legible b other sameText
    have read : (.ok a : Except StoreError VarId) = .ok b := by
      calc
        .ok a = VarId.ofText a.text := ((VarId.ofText_text_eq_ok_iff_legible a).mpr legible).symm
        _ = VarId.ofText b.text := by rw [sameText]
        _ = .ok b := (VarId.ofText_text_eq_ok_iff_legible b).mpr other
    exact Except.ok.inj read

example : VarId.ofText (VarId.text ⟨":", ⟨["a", ":b"]⟩⟩) = .ok ⟨":", ⟨["a", ":b"]⟩⟩ := by decide

end BindingStore
