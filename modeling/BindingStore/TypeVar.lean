import BindingStore.ScopePath
import BindingStore.StoreError

/-! Type variables. A variable is known by its name and the scope that declares it; its kind is
not part of that identity. -/

namespace BindingStore

open Text (Layout quoted separator)

inductive VarKind where
  | type
  | paramSpec
  deriving DecidableEq, Repr

namespace VarKind

def name : VarKind → String
  | type => "Ty"
  | paramSpec => "ParamSpec"

def ofName? : String → Option VarKind
  | "Ty" => some type
  | "ParamSpec" => some paramSpec
  | _ => none

def rank : VarKind → Nat
  | type => 0
  | paramSpec => 1

instance : Ord VarKind := ⟨compareOn rank⟩

def mark : VarKind → String
  | type => ""
  | paramSpec => "**"

@[simp]
theorem ofName?_name (k : VarKind) : ofName? k.name = some k := by cases k <;> rfl

theorem ofName?_eq_some_iff (name : String) (k : VarKind) :
    ofName? name = some k ↔ name = k.name := by
  constructor
  · intro found
    unfold ofName? at found
    split at found <;> cases found <;> rfl
  · rintro rfl
    exact ofName?_name k

end VarKind

structure VarId where
  name : String
  scope : ScopePath
  deriving DecidableEq, Repr

namespace VarId

instance : Ord VarId := ⟨compareLex (compareOn name) (compareOn scope)⟩

instance : Std.TransOrd VarId :=
  inferInstanceAs (Std.TransCmp (compareLex (compareOn name) (compareOn scope)))

instance : Std.LawfulEqOrd VarId where
  eq_of_compare {a b} same := by
    obtain ⟨names, scopes⟩ := Ordering.then_eq_eq.mp same
    cases a
    cases b
    exact congr (congrArg mk (Std.LawfulEqCmp.eq_of_compare names))
      (Std.LawfulEqCmp.eq_of_compare scopes)

def text (id : VarId) : String :=
  if id.scope.isRoot then id.name else id.scope.text ++ separator ++ id.name

/-- The last segment of a text is the name, those before it the scope. -/
def ofText (s : String) : Except StoreError VarId :=
  let path := ScopePath.ofText s
  match path.name? with
  | none => .error (.notAnId s)
  | some name => .ok ⟨name, path.parent⟩

def inspect (layout : Layout) (id : VarId) : String :=
  layout.record "TyVarId" [("name", quoted id.name), ("scope", id.scope.text)]

end VarId

structure TypeVar where
  id : VarId
  kind : VarKind
  deriving DecidableEq, Repr

namespace TypeVar

def isParamSpec (v : TypeVar) : Bool := v.kind = .paramSpec

def text (v : TypeVar) : String := v.kind.mark ++ v.id.text

def inspect (layout : Layout) (v : TypeVar) : String :=
  layout.record "TyVar"
    [("name", quoted v.id.name), ("scope", v.id.scope.text), ("kind", v.kind.name)]

end TypeVar

end BindingStore
