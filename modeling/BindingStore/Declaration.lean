import BindingStore.Failure
import BindingStore.Text.Name

namespace BindingStore

open Text (IsName)

def checkName (name : String) : Except Violation Unit :=
  if IsName name then .ok () else .error (.invalidName name)

def VarId.declare (name : String) (scope : ScopePath) : Except Violation VarId := do
  checkName name
  return ⟨name, scope⟩

def TypeVar.declare (name : String) (scope : ScopePath) (kind : VarKind) :
    Except Violation TypeVar := do
  checkName name
  return ⟨⟨name, scope⟩, kind⟩

theorem checkName_eq_ok_iff {name : String} {done : Unit} :
    checkName name = .ok done ↔ IsName name := by
  rw [checkName]
  split <;> simp [*]

theorem VarId.declare_eq_ok_iff {name : String} {scope : ScopePath} {id : VarId} :
    VarId.declare name scope = .ok id ↔ IsName name ∧ id = ⟨name, scope⟩ := by
  simp [VarId.declare, checkName_eq_ok_iff, @eq_comm _ id]

theorem TypeVar.declare_eq_ok_iff {name : String} {scope : ScopePath} {kind : VarKind}
    {v : TypeVar} :
    TypeVar.declare name scope kind = .ok v ↔ IsName name ∧ v = ⟨⟨name, scope⟩, kind⟩ := by
  simp [TypeVar.declare, checkName_eq_ok_iff, @eq_comm _ v]

end BindingStore
