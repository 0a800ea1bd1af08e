import BindingStore.Text.Layout
import BindingStore.Text.Quoted

namespace BindingStore

open Text (Layout quoted)

inductive ErrorKind where
  | index
  | parse
  deriving DecidableEq, Repr

def ErrorKind.name : ErrorKind → String
  | index => "Index"
  | parse => "Parse"

def ErrorKind.text : ErrorKind → String
  | index => "index error"
  | parse => "parse error"

structure StoreError where
  message : String
  kind : ErrorKind
  deriving DecidableEq, Repr

namespace StoreError

def outOfRange (index count : Nat) : StoreError :=
  ⟨"solution set index " ++ toString index ++ " is out of range for " ++ toString count ++
    " solution set(s)", .index⟩

def notAnId (s : String) : StoreError :=
  ⟨"`" ++ s ++ "` is not a valid type variable id", .parse⟩

def text (e : StoreError) : String := e.kind.text ++ ": " ++ e.message

def inspect (layout : Layout) (e : StoreError) : String :=
  layout.record "SolutionError" [("msg", quoted e.message), ("kind", e.kind.name)]

end StoreError

end BindingStore
