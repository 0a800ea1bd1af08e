import BindingStore.Recipe
import BindingStore.Solution

namespace BindingStore

open Text (Layout)

structure State (τ : Type) where
  solution : Solution τ
  snapshot? : Option (Solution τ)

inductive Query where
  | equalsSnapshot
  | equalSets (first second : Nat)
  | lookup (set : Nat) (var : VarRecipe)
  | lookupId (set : Nat) (id : IdRecipe)
  | lookupSignature (set : Nat) (var : VarRecipe)
  | lookupEach (var : VarRecipe)
  | covers (set : Nat) (scope : PathRecipe)
  | coversEach (scope : PathRecipe)
  | scopes (set : Nat)
  | size
  | isEmpty
  | setSize (set : Nat)
  | setIsEmpty (set : Nat)
  | typedBindings (set : Nat)
  | bindings (set : Nat)
  | bindingsEach
  | summaries
  | text (set : Nat)
  | tryText (set : Nat)
  | forms
  | setForms (set : Nat)
  deriving Repr

structure Forms where
  line : String
  lines : String
  deriving DecidableEq, Repr

def Forms.of (display : Layout → String) : Forms := ⟨display .line, display .lines⟩

structure Summary where
  index : Nat
  size : Nat
  scopes? : Option (List ScopePath)
  text : String
  deriving DecidableEq, Repr

inductive Reply (τ : Type) where
  | nothing
  | flag (value : Bool)
  | flags (values : List Bool)
  | count (value : Nat)
  | text (value : String)
  | type? (type? : Option τ)
  | types (types : List (Option τ))
  | signature? (signature? : Option (Signature τ))
  | scopes? (scopes? : Option (List ScopePath))
  | typedBindings (bindings : List (VarId × τ))
  | bindings (bindings : List (VarId × τ))
  | bindingsEach (sets : List (List (VarId × τ)))
  | summaries (summaries : List Summary)
  | forms (forms : Forms)
  deriving DecidableEq, Repr

variable {τ : Type} [Bindable τ]

def Summary.of (set : BindingSet τ) (index : Nat) : Summary :=
  ⟨index, set.size, set.scopes?, set.shown⟩

namespace State

def start (solution : Solution τ) : State τ := ⟨solution, none⟩

def get (state : State τ) (set : Nat) : Except Failure (BindingSet τ) :=
  orFail (state.solution.get set)

/-- The set is found before the other arguments are read. -/
def answer [DecidableEq τ] (state : State τ) : Query → Except Failure (Reply τ)
  | .equalsSnapshot => return .flag (state.snapshot?.any (· == state.solution))
  | .equalSets first second => do
    let first ← state.get first
    let second ← state.get second
    return .flag (first == second)
  | .lookup set v => do
    let set ← state.get set
    let v ← v.make
    return .type? (set.lookup v)
  | .lookupId set id => do
    let set ← state.get set
    let id ← id.make
    return .type? (set.lookupId id)
  | .lookupSignature set v => do
    let set ← state.get set
    let v ← v.make
    let signature? ← orFail (set.lookupSignature v)
    return .signature? signature?
  | .lookupEach v => do
    let v ← v.make
    return .types (state.solution.sets.map fun set => set.lookup v)
  | .covers set scope => do
    let set ← state.get set
    let scope ← scope.make
    return .flag (set.covers scope)
  | .coversEach scope => do
    let scope ← scope.make
    return .flags (state.solution.sets.map fun set => set.covers scope)
  | .scopes set => return .scopes? (← state.get set).scopes?
  | .size => return .count state.solution.size
  | .isEmpty => return .flag state.solution.isEmpty
  | .setSize set => return .count (← state.get set).size
  | .setIsEmpty set => return .flag (← state.get set).isEmpty
  | .typedBindings set => do
    let set ← state.get set
    return .typedBindings (set.forEach (fun seen type id => seen ++ [(id, type)]) [])
  | .bindings set => return .bindings (← state.get set).toList
  | .bindingsEach => return .bindingsEach (state.solution.sets.map BindingSet.toList)
  | .summaries =>
    return .summaries (state.solution.forEach (fun seen set index => seen ++ [.of set index]) [])
  | .text set => return .text (← state.get set).shown
  | .tryText set => return .text (← orFail (state.solution.tryGet set)).shown
  | .forms => return .forms (.of fun layout => state.solution.display layout)
  | .setForms set => do
    let set ← state.get set
    return .forms (.of fun layout => set.display layout)

end State

end BindingStore
