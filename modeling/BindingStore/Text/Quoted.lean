import BindingStore.Text.Hidden

/-! Quoted texts. Inside the quotes a quote, a backslash and the common controls are written with
a backslash, a hidden character by its code point, and every other character as it is. -/

namespace BindingStore.Text

def escape (hidden : Char → Bool) : Char → List Char
  | '\x00' => ['\\', '0']
  | '\t' => ['\\', 't']
  | '\r' => ['\\', 'r']
  | '\n' => ['\\', 'n']
  | '"' => ['\\', '"']
  | '\\' => ['\\', '\\']
  | c => if hidden c then ['\\', 'u', '\x7b'] ++ Nat.toDigits 16 c.toNat ++ ['\x7d'] else [c]

def quote (hidden : Char → Bool) (s : List Char) : List Char :=
  '"' :: s.flatMap (escape hidden) ++ ['"']

def quoted (s : String) : String := String.ofList (quote isHidden s.toList)

end BindingStore.Text
