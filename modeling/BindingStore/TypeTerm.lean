import BindingStore.Bindable
import BindingStore.TypeVar

namespace BindingStore

inductive TypeTerm (ν : Type) where
  | named (name : String) (args : List (TypeTerm ν))
  | function (params : List (TypeTerm ν)) (result : TypeTerm ν)
  | union (members : List (TypeTerm ν))
  | var (id : ν)
  deriving Repr

namespace TypeTerm

variable {ν : Type}

mutual

def decEq [DecidableEq ν] : (s t : TypeTerm ν) → Decidable (s = t)
  | .named m xs, .named n ys =>
    if same : m = n then
      match decEqList xs ys with
      | .isTrue equal => .isTrue (by rw [same, equal])
      | .isFalse differ => .isFalse (by simp [differ])
    else .isFalse (by simp [same])
  | .function xs r, .function ys s =>
    match decEqList xs ys with
    | .isTrue equal =>
      match decEq r s with
      | .isTrue same => .isTrue (by rw [equal, same])
      | .isFalse differ => .isFalse (by simp [differ])
    | .isFalse differ => .isFalse (by simp [differ])
  | .union xs, .union ys =>
    match decEqList xs ys with
    | .isTrue equal => .isTrue (by rw [equal])
    | .isFalse differ => .isFalse (by simp [differ])
  | .var x, .var y =>
    if same : x = y then .isTrue (by rw [same]) else .isFalse (by simp [same])
  | .named .., .function .. | .named .., .union _ | .named .., .var _
  | .function .., .named .. | .function .., .union _ | .function .., .var _
  | .union _, .named .. | .union _, .function .. | .union _, .var _
  | .var _, .named .. | .var _, .function .. | .var _, .union _ => .isFalse (by simp)

def decEqList [DecidableEq ν] : (ss ts : List (TypeTerm ν)) → Decidable (ss = ts)
  | [], [] => .isTrue rfl
  | [], _ :: _ => .isFalse (by simp)
  | _ :: _, [] => .isFalse (by simp)
  | s :: ss, t :: ts =>
    match decEq s t with
    | .isTrue same =>
      match decEqList ss ts with
      | .isTrue equal => .isTrue (by rw [same, equal])
      | .isFalse differ => .isFalse (by simp [differ])
    | .isFalse differ => .isFalse (by simp [differ])

end

instance [DecidableEq ν] : DecidableEq (TypeTerm ν) := decEq

mutual

/-- Nothing is set in brackets but arguments and parameters, so a union inside a union, or as a
result, is not told apart. -/
def text (shown : ν → String) : TypeTerm ν → String
  | .named name [] => name
  | .named name args => name ++ "[" ++ ", ".intercalate (texts shown args) ++ "]"
  | .function params result =>
    "(" ++ ", ".intercalate (texts shown params) ++ ") -> " ++ text shown result
  | .union members => " | ".intercalate (texts shown members)
  | .var id => "'" ++ shown id

def texts (shown : ν → String) : List (TypeTerm ν) → List String
  | [] => []
  | t :: ts => text shown t :: texts shown ts

end

def signature? : TypeTerm ν → Option (Signature (TypeTerm ν))
  | .function params result => some ⟨params, result⟩
  | _ => none

instance : Bindable (TypeTerm VarId) := ⟨text VarId.text, signature?⟩

variable {μ ε : Type}

mutual

def mapVars (read : ν → Except ε μ) : TypeTerm ν → Except ε (TypeTerm μ)
  | .named name args => return .named name (← mapVarsList read args)
  | .function params result =>
    return .function (← mapVarsList read params) (← mapVars read result)
  | .union members => return .union (← mapVarsList read members)
  | .var id => return .var (← read id)

def mapVarsList (read : ν → Except ε μ) : List (TypeTerm ν) → Except ε (List (TypeTerm μ))
  | [] => return []
  | t :: ts => return (← mapVars read t) :: (← mapVarsList read ts)

end

end TypeTerm

end BindingStore
