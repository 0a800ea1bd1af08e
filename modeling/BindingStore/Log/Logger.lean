import BindingStore.Log.Record

namespace BindingStore

structure Logger where
  threshold : Option Level
  coloured : Bool
  deriving DecidableEq, Repr

def Level.colour : Level → Nat
  | error => 31
  | warn => 33
  | info => 34
  | debug => 35
  | trace => 32

namespace Logger

def full : Logger := ⟨some .trace, true⟩

/-- A setting that names no level leaves the logger off. -/
def ofSetting (setting : Option String) (coloured : Bool) : Logger :=
  ⟨setting.bind Level.ofName?, coloured⟩

def label (logger : Logger) : String :=
  match logger.threshold with
  | none => "OFF"
  | some level => level.label

def admits (logger : Logger) (level : Level) : Bool :=
  match logger.threshold with
  | none => false
  | some threshold => level.rank ≤ threshold.rank

def heading (logger : Logger) (level : Level) : String :=
  if logger.coloured then
    "\x1b[" ++ toString level.colour ++ "m" ++ level.name ++ ":" ++ "\x1b[0m"
  else level.name ++ ":"

def line (logger : Logger) (r : Record) : String :=
  logger.heading r.level ++ " " ++ r.message ++ "\n"

def written (logger : Logger) (records : List Record) : String :=
  String.join ((records.filter fun r => logger.admits r.level).map logger.line)

end Logger

end BindingStore
