import BindingStore.Session.Query
import BindingStore.Session.SetRecipe

namespace BindingStore

inductive Step (ρ : Type) where
  | writeAll (var : VarRecipe) (type : ρ)
  | write (set : Nat) (var : VarRecipe) (type : ρ)
  | rebuild (kept : List Nat)
  | snapshot
  | restore
  | ask (query : Query)

/-- What a step leaves behind when it does not fail. The text of the solution is given for a step
that may have changed it. -/
structure Outcome (τ : Type) where
  reply : Reply τ
  text? : Option String
  state : State τ
  records : List Record

namespace State

variable {ρ τ : Type} [Recipe ρ τ] [Bindable τ]

def changed (state : State τ) (reply : Reply τ) (change : Change τ) :
    Except Failure (Outcome τ) := do
  let next ← orFail (state.solution.change change)
  return ⟨reply, some next.value.shown, ⟨next.value, state.snapshot?⟩, next.records⟩

def restored (state : State τ) : State τ :=
  ⟨state.snapshot?.getD state.solution, state.snapshot?⟩

def take [DecidableEq τ] (state : State τ) : Step ρ → Except Failure (Outcome τ)
  | .writeAll v type => do
    let (v, type) ← readWrite v type
    state.changed .nothing (.broadcast v type)
  | .write set v type => do
    let (v, type) ← readWrite v type
    state.changed .nothing (.write set v type)
  | .rebuild kept => state.changed (.count state.solution.size) (.rebuild kept)
  | .snapshot => return ⟨.nothing, none, ⟨state.solution, some state.solution⟩, []⟩
  | .restore => return ⟨.nothing, some state.restored.solution.shown, state.restored, []⟩
  | .ask query => do
    let reply ← state.answer query
    return ⟨reply, none, state, []⟩

end State

end BindingStore
