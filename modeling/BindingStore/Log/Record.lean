namespace BindingStore

inductive Level where
  | error
  | warn
  | info
  | debug
  | trace
  deriving DecidableEq, Repr

namespace Level

def all : List Level := [error, warn, info, debug, trace]

/-- A level lets through every level of no greater rank. -/
def rank : Level → Nat
  | error => 0
  | warn => 1
  | info => 2
  | debug => 3
  | trace => 4

def name : Level → String
  | error => "error"
  | warn => "warn"
  | info => "info"
  | debug => "debug"
  | trace => "trace"

def label : Level → String
  | error => "ERROR"
  | warn => "WARN"
  | info => "INFO"
  | debug => "DEBUG"
  | trace => "TRACE"

def ofName? (s : String) : Option Level := all.find? fun level => s.toLower == level.name

end Level

structure Record where
  level : Level
  message : String
  deriving DecidableEq, Repr

def Record.text (r : Record) : String := r.level.label ++ " " ++ r.message

structure Logged (α : Type) where
  value : α
  records : List Record
  deriving DecidableEq, Repr

namespace Logged

variable {α β : Type}

theorem ext {x y : Logged α} (values : x.value = y.value) (records : x.records = y.records) :
    x = y := by
  cases x
  cases y
  cases values
  cases records
  rfl

def silent (value : α) : Logged α := ⟨value, []⟩

def map (f : α → β) (x : Logged α) : Logged β := ⟨f x.value, x.records⟩

def andThen (x : Logged α) (f : α → Logged β) : Logged β :=
  ⟨(f x.value).value, x.records ++ (f x.value).records⟩

/-- Runs over a list from the left, one value and its records after another. -/
def each (f : α → Logged β) (values : List α) : Logged (List β) :=
  ⟨values.map fun value => (f value).value, values.flatMap fun value => (f value).records⟩

@[simp]
theorem value_silent (value : α) : (silent value).value = value := rfl

@[simp]
theorem records_silent (value : α) : (silent value).records = [] := rfl

@[simp]
theorem value_map (f : α → β) (x : Logged α) : (x.map f).value = f x.value := rfl

@[simp]
theorem records_map (f : α → β) (x : Logged α) : (x.map f).records = x.records := rfl

@[simp]
theorem value_andThen (x : Logged α) (f : α → Logged β) :
    (x.andThen f).value = (f x.value).value := rfl

@[simp]
theorem records_andThen (x : Logged α) (f : α → Logged β) :
    (x.andThen f).records = x.records ++ (f x.value).records := rfl

@[simp]
theorem value_each (f : α → Logged β) (values : List α) :
    (each f values).value = values.map fun value => (f value).value := rfl

@[simp]
theorem records_each (f : α → Logged β) (values : List α) :
    (each f values).records = values.flatMap fun value => (f value).records := rfl

end Logged

end BindingStore
