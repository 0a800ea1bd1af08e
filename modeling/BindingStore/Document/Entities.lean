import BindingStore.Document
import BindingStore.TypeVar

/-! Paths, kinds, ids and variables as documents. Writing keeps every value as it is, and reading
checks and changes nothing inside it. From an object the fields that are there are read in the
order of their names, and after that the first one absent in the order of declaration is missed. -/

namespace BindingStore

open Document (Reader asString asStrings field? required item ended)

namespace ScopePath

def shape : RecordShape := ⟨"Path", ["parts"]⟩

def toDocument (p : ScopePath) : Document :=
  .object [("parts", .array (p.segments.map .string))]

def ofDocument : Reader ScopePath
  | .array items => do
    let segments ← item shape items 0 asStrings
    ended shape items
    return ⟨segments⟩
  | .object fields => do
    let segments ← field? fields "parts" asStrings
    return ⟨← required "parts" segments⟩
  | found => .error (.wrongType found (.record shape))

end ScopePath

namespace VarKind

def toDocument (k : VarKind) : Document := .string k.name

def ofVariant (name : String) : Except Misfit VarKind :=
  match ofName? name with
  | none => .error (.unknownVariant name (type.name, paramSpec.name))
  | some k => .ok k

def ofDocument : Reader VarKind
  | .string name => ofVariant name
  | .object [(name, content)] => do
    let k ← ofVariant name
    match content with
    | .null => return k
    | found => .error (.wrongType found .unit)
  | .object _ => .error .notOneKey
  | found => .error (.wrongType found .variant)

@[simp]
theorem ofVariant_eq_ok_iff (name : String) (k : VarKind) :
    ofVariant name = .ok k ↔ name = k.name := by
  rw [ofVariant, ← ofName?_eq_some_iff]
  cases ofName? name <;> simp

end VarKind

namespace VarId

def shape : RecordShape := ⟨"TyVarId", ["name", "scope"]⟩

def toDocument (id : VarId) : Document :=
  .object [("name", .string id.name), ("scope", id.scope.toDocument)]

def ofDocument : Reader VarId
  | .array items => do
    let name ← item shape items 0 asString
    let scope ← item shape items 1 ScopePath.ofDocument
    ended shape items
    return ⟨name, scope⟩
  | .object fields => do
    let name ← field? fields "name" asString
    let scope ← field? fields "scope" ScopePath.ofDocument
    return ⟨← required "name" name, ← required "scope" scope⟩
  | found => .error (.wrongType found (.record shape))

end VarId

namespace TypeVar

def shape : RecordShape := ⟨"TyVar", ["name", "scope", "kind"]⟩

def toDocument (v : TypeVar) : Document :=
  .object
    [("name", .string v.id.name), ("scope", v.id.scope.toDocument), ("kind", v.kind.toDocument)]

def ofDocument : Reader TypeVar
  | .array items => do
    let name ← item shape items 0 asString
    let scope ← item shape items 1 ScopePath.ofDocument
    let kind ← item shape items 2 VarKind.ofDocument
    ended shape items
    return ⟨⟨name, scope⟩, kind⟩
  | .object fields => do
    let kind ← field? fields "kind" VarKind.ofDocument
    let name ← field? fields "name" asString
    let scope ← field? fields "scope" ScopePath.ofDocument
    let name ← required "name" name
    let scope ← required "scope" scope
    let kind ← required "kind" kind
    return ⟨⟨name, scope⟩, kind⟩
  | found => .error (.wrongType found (.record shape))

end TypeVar

end BindingStore
