import BindingStore.Ranking
import BindingStore.ScopePath

/-! Scope filters: finite sets of scopes, kept each once and in order, so that two filters with the
same scopes are equal. -/

namespace BindingStore

structure ScopeFilter where
  scopes : List ScopePath
  sorted : Ascending scopes
  deriving DecidableEq

namespace ScopeFilter

def ofList (scopes : List ScopePath) : ScopeFilter := ⟨ascending scopes, ascending_sorted scopes⟩

def contains (f : ScopeFilter) (scope : ScopePath) : Bool := scope ∈ f.scopes

theorem contains_ofList (scopes : List ScopePath) (scope : ScopePath) :
    (ofList scopes).contains scope = true ↔ scope ∈ scopes := by
  simp [contains, ofList, mem_ascending]

end ScopeFilter

end BindingStore
