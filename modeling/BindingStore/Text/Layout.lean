namespace BindingStore.Text

/-- Sets every line four columns in, an empty line too. -/
def indentFrom : Bool → List Char → List Char
  | _, [] => []
  | true, c :: rest => ' ' :: ' ' :: ' ' :: ' ' :: c :: indentFrom (c == '\n') rest
  | false, c :: rest => c :: indentFrom (c == '\n') rest

def indent (s : String) : String := String.ofList (indentFrom true s.toList)

def bracketLine (opening : String) (items : List String) (closing : String) : String :=
  opening ++ ", ".intercalate items ++ closing

def bracketBlock (opening : String) (items : List String) (closing : String) : String :=
  if items.isEmpty then opening ++ closing
  else opening ++ "\n" ++ String.join (items.map fun item => indent (item ++ ",\n")) ++ closing

inductive Layout where
  | line
  | lines
  deriving DecidableEq, Repr

def field (name value : String) : String := name ++ ": " ++ value

def fields (items : List (String × String)) : List String :=
  items.map fun item => field item.1 item.2

def Layout.array (layout : Layout) (items : List String) : String :=
  match layout with
  | line => bracketLine "[" items "]"
  | lines => bracketBlock "[" items "]"

def Layout.table (layout : Layout) (items : List (String × String)) : String :=
  match layout with
  | line => bracketLine "\x7b" (fields items) "\x7d"
  | lines => bracketBlock "\x7b" (fields items) "\x7d"

def Layout.record (layout : Layout) (name : String) (items : List (String × String)) : String :=
  match layout with
  | line => bracketLine (name ++ " \x7b ") (fields items) " \x7d"
  | lines => bracketBlock (name ++ " \x7b") (fields items) "\x7d"

end BindingStore.Text
