import BindingStore.Proofs.NormalPaths
import BindingStore.Proofs.RoundTrip

namespace BindingStore

open Text (IsName)

theorem ScopePath.segmentsOf_eq_singleton_iff (name : String) :
    segmentsOf name = [name] ↔ IsName name := by
  constructor
  · intro alone
    have member : name ∈ segmentsOf name := by simp [alone]
    exact isName_of_mem_segmentsOf member
  · exact segmentsOf_of_isName

theorem TypeVar.exists_declare_iff (name : String) (scope : ScopePath) (kind : VarKind) :
    (∃ v, declare name scope kind = .ok v) ↔ IsName name := by
  simp [declare_eq_ok_iff]

namespace VarId

theorem exists_declare_iff (name : String) (scope : ScopePath) :
    (∃ id, declare name scope = .ok id) ↔ IsName name := by
  simp [declare_eq_ok_iff]

theorem ofText_eq_ok_root_iff (name : String) :
    ofText name = .ok ⟨name, .root⟩ ↔ (ScopePath.ofText name).segments = [name] := by
  rw [ofText_eq_ok_iff, path, ScopePath.root, ScopePath.ofText, ScopePath.mk.injEq]
  rfl

theorem exists_ofText_iff (id : VarId) :
    (∃ s, ofText s = .ok id) ↔ id.scope.Constructed ∧ declare id.name id.scope = .ok id := by
  have declared : declare id.name id.scope = .ok id ↔ IsName id.name := by
    simp [declare_eq_ok_iff]
  simp only [ofText_eq_ok_iff]
  rw [ScopePath.exists_ofText_iff_normal, normal_path_iff, ScopePath.constructed_iff_normal,
    declared]

/-- A name can be declared, for an id or for a variable of either kind, in any scope, where it reads
as a path of itself alone, which is where it reads as an id in the global scope. Of the ids, those
and no others are read from some text that can be declared in a scope made from texts. -/
theorem declared_iff_read :
    (∀ (name : String) (scope : ScopePath) (kind : VarKind),
      ((∃ id, declare name scope = .ok id) ↔ (ScopePath.ofText name).segments = [name]) ∧
      ((∃ v, TypeVar.declare name scope kind = .ok v) ↔
        (ScopePath.ofText name).segments = [name]) ∧
      (ofText name = .ok ⟨name, .root⟩ ↔ (ScopePath.ofText name).segments = [name])) ∧
    ∀ id : VarId,
      (∃ s, ofText s = .ok id) ↔ id.scope.Constructed ∧ declare id.name id.scope = .ok id := by
  refine ⟨?_, exists_ofText_iff⟩
  intro name scope kind
  have single : IsName name ↔ (ScopePath.ofText name).segments = [name] :=
    (ScopePath.segmentsOf_eq_singleton_iff name).symm
  refine ⟨?_, ?_, ofText_eq_ok_root_iff name⟩
  · rw [exists_declare_iff, single]
  · rw [TypeVar.exists_declare_iff, single]

end VarId

end BindingStore
