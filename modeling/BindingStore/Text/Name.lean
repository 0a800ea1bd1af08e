import BindingStore.Text.Blank
import BindingStore.Text.Pieces

namespace BindingStore.Text

def IsName (s : String) : Prop :=
  s ≠ "" ∧ isSeparated s.toList = false ∧ trim s.toList = s.toList

instance (s : String) : Decidable (IsName s) :=
  inferInstanceAs (Decidable (s ≠ "" ∧ isSeparated s.toList = false ∧ trim s.toList = s.toList))

end BindingStore.Text
