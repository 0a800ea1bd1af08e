import BindingStore.Proofs.History
import BindingStore.Proofs.Sessions

namespace BindingStore

open History (lastType)

theorem TypeTerm.signature?_eq_some_iff {ν : Type} (type : TypeTerm ν)
    (params : List (TypeTerm ν)) (result : TypeTerm ν) :
    type.signature? = some ⟨params, result⟩ ↔ type = .function params result := by
  cases type <;> simp [signature?]

theorem TypeTerm.signature?_eq_none_iff {ν : Type} (type : TypeTerm ν) :
    type.signature? = none ↔ ∀ params result, type ≠ .function params result := by
  cases type <;> simp [signature?]

theorem History.lastType_eq_none_iff_unnamed {τ : Type} (id : VarId)
    (writes : List (TypeVar × τ)) : lastType id writes = none ↔
      ¬ ∃ write ∈ writes, write.1.id.name = id.name ∧ write.1.id.scope = id.scope := by
  simp [lastType]

namespace BindingSet

section

variable {τ : Type} [Bindable τ]

theorem lookupSignature_cases (s : BindingSet τ) (v : TypeVar) :
    (v.kind = .type ∧ s.lookupSignature v = .error (.notParamSpec v)) ∨
      (v.kind = .paramSpec ∧ s.lookup v = none ∧ s.lookupSignature v = .ok none) ∨
      (v.kind = .paramSpec ∧ ∃ type, s.lookup v = some type ∧ Bindable.signature? type = none ∧
        s.lookupSignature v = .error (.notFunction v (Bindable.text type))) ∨
      (v.kind = .paramSpec ∧ ∃ type signature, s.lookup v = some type ∧
        Bindable.signature? type = some signature ∧
          s.lookupSignature v = .ok (some signature)) := by
  cases kind : v.kind with
  | type =>
      left
      simp [lookupSignature, TypeVar.isParamSpec, kind]
  | paramSpec =>
      right
      cases found : s.lookup v with
      | none => simp [lookupSignature, TypeVar.isParamSpec, kind, found]
      | some type =>
          cases shape : Bindable.signature? type <;>
            simp [lookupSignature, TypeVar.isParamSpec, kind, found, shape]

theorem lookupSignature_eq_error_iff (s : BindingSet τ) (v : TypeVar) (violation : Violation) :
    s.lookupSignature v = .error violation ↔
      (v.kind = .type ∧ violation = .notParamSpec v) ∨
        (v.kind = .paramSpec ∧ ∃ type, s.lookup v = some type ∧ Bindable.signature? type = none ∧
          violation = .notFunction v (Bindable.text type)) := by
  rcases s.lookupSignature_cases v with
    ⟨kind, outcome⟩ | ⟨kind, found, outcome⟩ | ⟨kind, type, found, shape, outcome⟩ |
      ⟨kind, type, signature, found, shape, outcome⟩ <;> simp [*, eq_comm]

theorem lookupSignature_eq_none_iff (s : BindingSet τ) (v : TypeVar) :
    s.lookupSignature v = .ok none ↔ v.kind = .paramSpec ∧ s.lookup v = none := by
  rcases s.lookupSignature_cases v with
    ⟨kind, outcome⟩ | ⟨kind, found, outcome⟩ | ⟨kind, type, found, shape, outcome⟩ |
      ⟨kind, type, signature, found, shape, outcome⟩ <;> simp [*]

theorem lookupSignature_eq_some_iff (s : BindingSet τ) (v : TypeVar) (signature : Signature τ) :
    s.lookupSignature v = .ok (some signature) ↔
      v.kind = .paramSpec ∧ ∃ type, s.lookup v = some type ∧
        Bindable.signature? type = some signature := by
  rcases s.lookupSignature_cases v with
    ⟨kind, outcome⟩ | ⟨kind, found, outcome⟩ | ⟨kind, type, found, shape, outcome⟩ |
      ⟨kind, type, other, found, shape, outcome⟩ <;> simp [*]

end

/-- What a look-up of a signature gives is told by the kind of the variable and by the last type that
was written under its id. It fails through a variable of the other kind, bound or not, and where the
last type is not a function. Whatever it gives, a session that asks for it stays as it is. -/
theorem lookupSignature_after_writes (scopes? : Option (List ScopePath))
    (writes : List (TypeVar × TypeTerm VarId)) (v : TypeVar) :
    let s := ((fresh scopes?).writeAll writes).value
    (∀ violation, s.lookupSignature v = .error violation ↔
      (v.kind = .type ∧ violation = .notParamSpec v ∧
        violation.message = "`" ++ v.text ++ "` is not a parameter specification") ∨
      (v.kind = .paramSpec ∧ ∃ type, lastType v.id writes = some type ∧
        (∀ params result, type ≠ .function params result) ∧
        violation = .notFunction v (type.text VarId.text) ∧
        violation.message = "parameter specification `" ++ v.text ++
          "` is bound to non-function type `" ++ type.text VarId.text ++ "`")) ∧
    (s.lookupSignature v = .ok none ↔ v.kind = .paramSpec ∧
      ¬ ∃ write ∈ writes, write.1.id.name = v.id.name ∧ write.1.id.scope = v.id.scope) ∧
    (∀ params result, s.lookupSignature v = .ok (some ⟨params, result⟩) ↔
      v.kind = .paramSpec ∧ lastType v.id writes = some (.function params result)) ∧
    (∀ params result, s.lookupSignature v = .ok (some ⟨params, result⟩) ↔
      v.isParamSpec = true ∧ s.lookup v = some (.function params result)) ∧
    ∀ (state : State (TypeTerm VarId)) (index : Nat) (r : VarRecipe),
      state.attempt (.ask (.lookupSignature index r) : Step (TypeTerm IdRecipe)) = .silent state := by
  intro s
  have last : s.lookup v = lastType v.id writes := by
    rw [lookup, lookupId_writeAll, lookupId_fresh, Option.or_none]
  have shaped (params : List (TypeTerm VarId)) (result : TypeTerm VarId) :
      s.lookupSignature v = .ok (some ⟨params, result⟩) ↔
        v.kind = .paramSpec ∧ s.lookup v = some (.function params result) := by
    simp [lookupSignature_eq_some_iff, Bindable.signature?, TypeTerm.signature?_eq_some_iff]
  refine ⟨?_, ?_, ?_, ?_, ?_⟩
  · intro violation
    rw [lookupSignature_eq_error_iff, last]
    constructor
    · intro ended
      rcases ended with ⟨kind, same⟩ | ⟨kind, type, found, shape, same⟩
      · exact .inl ⟨kind, same, by rw [same]; rfl⟩
      · have other := type.signature?_eq_none_iff.mp shape
        exact .inr ⟨kind, type, found, other, same, by rw [same]; rfl⟩
    · intro ended
      rcases ended with ⟨kind, same, -⟩ | ⟨kind, type, found, other, same, -⟩
      · exact .inl ⟨kind, same⟩
      · exact .inr ⟨kind, type, found, type.signature?_eq_none_iff.mpr other, same⟩
  · rw [lookupSignature_eq_none_iff, last, History.lastType_eq_none_iff_unnamed]
  · intro params result
    rw [shaped, last]
  · intro params result
    rw [shaped, TypeVar.isParamSpec, decide_eq_true_iff]
  · intro state index r
    exact state.attempt_ask _

example :
    let p : TypeVar := ⟨⟨"P", ⟨["wrap"]⟩⟩, .paramSpec⟩
    let t : TypeVar := ⟨⟨"P", ⟨["wrap"]⟩⟩, .type⟩
    let s : BindingSet (TypeTerm VarId) := (empty.writeAll [(p, .function [] (.var t.id))]).value
    s.lookupSignature p = .ok (some ⟨[], .var t.id⟩) ∧
      (s.write t (.named "int" [])).value.lookupSignature p = .error (.notFunction p "int") := by
  decide

end BindingSet

end BindingStore
