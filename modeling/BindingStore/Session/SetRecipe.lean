import BindingStore.Recipe
import BindingStore.Solution

namespace BindingStore

structure SetRecipe (ρ : Type) where
  scopes? : Option (List PathRecipe)
  writes : List (VarRecipe × ρ)

variable {ρ τ : Type} [Recipe ρ τ] [Bindable τ]

def readWrite (v : VarRecipe) (type : ρ) : Except Failure (TypeVar × τ) := do
  let v ← v.make
  let type ← Recipe.make type
  return (v, type)

namespace SetRecipe

/-- All writes are read before the scopes, and the scopes before anything is written. -/
def make (r : SetRecipe ρ) : Except Failure (Logged (BindingSet τ)) := do
  let writes ← r.writes.mapM fun (v, type) => readWrite v type
  let scopes? ← r.scopes?.mapM fun scopes => scopes.mapM PathRecipe.make
  return (BindingSet.fresh scopes?).writeAll writes

def makeAll : List (SetRecipe ρ) → Except Failure (Logged (List (BindingSet τ)))
  | [] => return .silent []
  | recipe :: recipes => do
    let set ← recipe.make
    let sets ← makeAll recipes
    return set.andThen fun value => sets.map (value :: ·)

end SetRecipe

end BindingStore
