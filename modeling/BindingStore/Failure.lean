import BindingStore.Document
import BindingStore.TypeVar

/-! What ends a request early. A violation breaks a rule that callers promise to keep; the other
failures are errors that callers may meet. -/

namespace BindingStore

inductive Violation where
  | invalidName (name : String)
  | notParamSpec (var : TypeVar)
  | notFunction (var : TypeVar) (typeText : String)
  | outOfRange (index count : Nat)
  deriving DecidableEq, Repr

def Violation.message : Violation → String
  | invalidName name => "`" ++ name ++ "` is not a valid type variable name"
  | notParamSpec var => "`" ++ var.text ++ "` is not a parameter specification"
  | notFunction var typeText =>
    "parameter specification `" ++ var.text ++ "` is bound to non-function type `" ++ typeText ++ "`"
  | outOfRange index count => (StoreError.outOfRange index count).text

inductive Failure where
  | violation (cause : Violation)
  | error (cause : StoreError)
  | misfit (cause : Misfit)

def Failure.message : Failure → String
  | violation cause => cause.message
  | error cause => cause.text
  | misfit cause => cause.message

class Failing (ε : Type) where
  toFailure : ε → Failure

instance : Failing Violation := ⟨.violation⟩

instance : Failing StoreError := ⟨.error⟩

instance : Failing Misfit := ⟨.misfit⟩

def orFail {ε α : Type} [Failing ε] : Except ε α → Except Failure α
  | .ok value => .ok value
  | .error cause => .error (Failing.toFailure cause)

end BindingStore
