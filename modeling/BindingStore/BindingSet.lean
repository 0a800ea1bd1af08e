import BindingStore.Bindable
import BindingStore.Bindings
import BindingStore.Failure
import BindingStore.Log.Record
import BindingStore.ScopeFilter

/-! Binding sets: the types found for a set of type variables. A filter names the scopes that a set
answers for. It is kept for the callers, and no operation on the bindings looks at it. -/

namespace BindingStore

open Text (Layout quoted)

structure BindingSet (τ : Type) where
  bindings : Bindings VarId τ
  filter? : Option ScopeFilter

namespace BindingSet

variable {τ : Type}

def empty : BindingSet τ := ⟨.empty, none⟩

def ofScopes (scopes : List ScopePath) : BindingSet τ := ⟨.empty, some (.ofList scopes)⟩

def fresh : Option (List ScopePath) → BindingSet τ
  | none => empty
  | some scopes => ofScopes scopes

def scopes? (s : BindingSet τ) : Option (List ScopePath) := s.filter?.map ScopeFilter.scopes

/-- A set without a filter covers every scope. -/
def covers (s : BindingSet τ) (scope : ScopePath) : Bool :=
  match s.filter? with
  | none => true
  | some filter => filter.contains scope

def size (s : BindingSet τ) : Nat := s.bindings.size

def isEmpty (s : BindingSet τ) : Bool := s.bindings.isEmpty

/-- The bindings, in the order in which their ids were first written. -/
def toList (s : BindingSet τ) : List (VarId × τ) := s.bindings.entries

def forEach {σ : Type} (s : BindingSet τ) (visit : σ → τ → VarId → σ) (start : σ) : σ :=
  s.toList.foldl (fun state (id, type) => visit state type id) start

def lookupId (s : BindingSet τ) (id : VarId) : Option τ := s.bindings.get? id

def lookup (s : BindingSet τ) (v : TypeVar) : Option τ := s.lookupId v.id

instance [DecidableEq τ] : BEq (BindingSet τ) where
  beq a b := a.bindings.agrees b.bindings && a.filter? = b.filter?

variable [Bindable τ]

open Bindable (text)

def lookupSignature (s : BindingSet τ) (v : TypeVar) : Except Violation (Option (Signature τ)) :=
  if v.isParamSpec then
    match s.lookup v with
    | none => .ok none
    | some type =>
      match Bindable.signature? type with
      | none => .error (.notFunction v (text type))
      | some signature => .ok (some signature)
  else .error (.notParamSpec v)

def writing (v : TypeVar) (type : τ) : Record :=
  ⟨.trace, "set_ty: " ++ v.id.text ++ " => " ++ text type⟩

/-- The record of a write to an id that is bound, were it to the same type. -/
def replacing (v : TypeVar) (previous : τ) : Record :=
  ⟨.debug, "set_ty: replaced binding " ++ text previous ++ " for " ++ v.text⟩

/-- Binds the id of a variable. Its kind shows in the records alone. -/
def write (s : BindingSet τ) (v : TypeVar) (type : τ) : Logged (BindingSet τ) :=
  ⟨⟨s.bindings.insert v.id type, s.filter?⟩,
    writing v type :: ((s.lookup v).map (replacing v)).toList⟩

def writeAll (s : BindingSet τ) : List (TypeVar × τ) → Logged (BindingSet τ)
  | [] => .silent s
  | (v, type) :: rest => (s.write v type).andThen fun next => next.writeAll rest

def display (layout : Layout) (s : BindingSet τ) : String :=
  layout.table (s.toList.map fun (id, type) => (quoted id.text, quoted (text type)))

def shown (s : BindingSet τ) : String := s.display .line

@[simp]
theorem bindings_write (s : BindingSet τ) (v : TypeVar) (type : τ) :
    (s.write v type).value.bindings = s.bindings.insert v.id type := rfl

@[simp]
theorem filter?_write (s : BindingSet τ) (v : TypeVar) (type : τ) :
    (s.write v type).value.filter? = s.filter? := rfl

@[simp]
theorem writeAll_nil (s : BindingSet τ) : s.writeAll [] = .silent s := rfl

@[simp]
theorem value_writeAll_cons (s : BindingSet τ) (v : TypeVar) (type : τ)
    (rest : List (TypeVar × τ)) :
    (s.writeAll ((v, type) :: rest)).value = ((s.write v type).value.writeAll rest).value := rfl

end BindingSet

end BindingStore
