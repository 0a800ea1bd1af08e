import BindingStore.Text.Quoted

namespace BindingStore

inductive Document where
  | null
  | bool (value : Bool)
  | integer (value : Int)
  | string (value : String)
  | array (items : List Document)
  | object (fields : List (String × Document))
  deriving Repr

def Document.describe : Document → String
  | null => "null"
  | bool value => "boolean `" ++ toString value ++ "`"
  | integer value => "integer `" ++ toString value ++ "`"
  | string value => "string " ++ Text.quoted value
  | array _ => "sequence"
  | object _ => "map"

/-- A record that is read from an object by field names, or from an array by positions. -/
structure RecordShape where
  name : String
  fields : List String
  deriving DecidableEq, Repr

namespace RecordShape

def size (shape : RecordShape) : Nat := shape.fields.length

def text (shape : RecordShape) : String := "struct " ++ shape.name

def sizedText (shape : RecordShape) : String :=
  shape.text ++ " with " ++ toString shape.size ++ if shape.size = 1 then " element" else " elements"

end RecordShape

inductive Expected where
  | record (shape : RecordShape)
  | string
  | sequence
  | unit
  | variant

def Expected.text : Expected → String
  | record shape => shape.text
  | string => "a string"
  | sequence => "a sequence"
  | unit => "unit"
  | variant => "string or map"

inductive Misfit where
  | wrongType (found : Document) (expected : Expected)
  | missingField (name : String)
  | tooShort (length : Nat) (shape : RecordShape)
  | tooLong (length : Nat)
  | unknownVariant (name : String) (known : String × String)
  | notOneKey

def Misfit.message : Misfit → String
  | wrongType found expected =>
    "invalid type: " ++ found.describe ++ ", expected " ++ expected.text
  | missingField name => "missing field `" ++ name ++ "`"
  | tooShort length shape =>
    "invalid length " ++ toString length ++ ", expected " ++ shape.sizedText
  | tooLong length =>
    "invalid length " ++ toString length ++ ", expected fewer elements in array"
  | unknownVariant name known =>
    "unknown variant `" ++ name ++ "`, expected `" ++ known.1 ++ "` or `" ++ known.2 ++ "`"
  | notOneKey => "invalid value: map, expected map with a single key"

@[simp]
theorem bind_eq_ok_iff {ε α β : Type} {first : Except ε α} {next : α → Except ε β} {value : β} :
    (first >>= next) = .ok value ↔ ∃ middle, first = .ok middle ∧ next middle = .ok value := by
  cases first <;> simp [bind, Except.bind]

@[simp]
theorem map_eq_ok_iff {ε α β : Type} {first : Except ε α} {make : α → β} {value : β} :
    make <$> first = .ok value ↔ ∃ middle, first = .ok middle ∧ make middle = value := by
  cases first <;> simp [Functor.map, Except.map]

namespace Document

variable {α : Type}

abbrev Reader (α : Type) := Document → Except Misfit α

def asString : Reader String
  | string value => .ok value
  | found => .error (.wrongType found .string)

def asStrings : Reader (List String)
  | array items => items.mapM asString
  | found => .error (.wrongType found .sequence)

def field? (fields : List (String × Document)) (name : String) (read : Reader α) :
    Except Misfit (Option α) :=
  match fields.lookup name with
  | none => .ok none
  | some value => (read value).map some

def required (name : String) : Option α → Except Misfit α
  | none => .error (.missingField name)
  | some value => .ok value

def item (shape : RecordShape) (items : List Document) (index : Nat) (read : Reader α) :
    Except Misfit α :=
  match items[index]? with
  | none => .error (.tooShort index shape)
  | some value => read value

def ended (shape : RecordShape) (items : List Document) : Except Misfit Unit :=
  if items.length ≤ shape.size then .ok () else .error (.tooLong items.length)

section

variable {d : Document} {text : String} {texts : List String} {items : List Document}
  {fields : List (String × Document)} {name : String} {index : Nat} {shape : RecordShape}
  {read : Reader α} {value : α}

@[simp]
theorem asString_eq_ok_iff : asString d = .ok text ↔ d = .string text := by
  cases d <;> simp [asString]

@[simp]
theorem asStrings_eq_ok_iff : asStrings d = .ok texts ↔ d = .array (texts.map .string) := by
  have each (items : List Document) :
      items.mapM asString = .ok texts ↔ items = texts.map .string := by
    induction items generalizing texts with
    | nil => cases texts <;> simp [pure, Except.pure]
    | cons item items ih => cases texts <;> simp [ih]
  cases d <;> simp [asStrings, each]

@[simp]
theorem field?_eq_ok_some_iff :
    field? fields name read = .ok (some value) ↔
      ∃ content, fields.lookup name = some content ∧ read content = .ok value := by
  rw [field?]
  cases fields.lookup name with
  | none => simp
  | some content => cases found : read content <;> simp [Except.map, found]

@[simp]
theorem required_eq_ok_iff {found : Option α} :
    required name found = .ok value ↔ found = some value := by
  cases found <;> simp [required]

@[simp]
theorem item_eq_ok_iff :
    item shape items index read = .ok value ↔
      ∃ content, items[index]? = some content ∧ read content = .ok value := by
  rw [item]
  cases items[index]? <;> simp

@[simp]
theorem ended_eq_ok_iff {done : Unit} :
    ended shape items = .ok done ↔ items.length ≤ shape.size := by
  rw [ended]
  split <;> simp [*]

end

end Document

end BindingStore
