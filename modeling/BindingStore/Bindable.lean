namespace BindingStore

structure Signature (τ : Type) where
  params : List τ
  result : τ
  deriving DecidableEq, Repr

class Bindable (τ : Type) where
  text : τ → String
  signature? : τ → Option (Signature τ)

instance : Bindable Int := ⟨toString, fun _ => none⟩

end BindingStore
