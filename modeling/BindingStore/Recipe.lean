import BindingStore.Declaration
import BindingStore.Document.Entities
import BindingStore.TypeTerm

/-! Recipes: how a value is to be made. A recipe is followed from its first part on, and the first
part that fails decides. -/

namespace BindingStore

class Recipe (ρ : Type) (α : outParam Type) where
  make : ρ → Except Failure α

instance : Recipe Int Int := ⟨.ok⟩

mutual

inductive PathRecipe where
  | root
  | text (s : String)
  | texts (parts : List String)
  | document (d : Document)
  | moved (start : PathRecipe) (move : PathMove)
  deriving Repr

inductive PathMove where
  | parent
  | append (suffix : Suffix)
  deriving Repr

/-- What is appended to a path: it is turned into a text, and the text is read like a path. -/
inductive Suffix where
  | text (s : String)
  | integer (i : Int)
  | bool (b : Bool)
  | path (p : PathRecipe)
  deriving Repr

end

mutual

def PathRecipe.make : PathRecipe → Except Failure ScopePath
  | .root => .ok .root
  | .text s => .ok (.ofText s)
  | .texts parts => .ok (.ofTexts parts)
  | .document d => orFail (ScopePath.ofDocument d)
  | .moved start move => do move.apply (← start.make)

def PathMove.apply (p : ScopePath) : PathMove → Except Failure ScopePath
  | .parent => .ok p.parent
  | .append suffix => return p.append (← suffix.make)

def Suffix.make : Suffix → Except Failure String
  | .text s => .ok s
  | .integer i => .ok (toString i)
  | .bool b => .ok (toString b)
  | .path p => return (← p.make).text

end

instance : Recipe PathRecipe ScopePath := ⟨PathRecipe.make⟩

def PathRecipe.trail (start : PathRecipe) (moves : List PathMove) :
    Except Failure (ScopePath × List ScopePath) := do
  let first ← start.make
  return (first, ← follow first moves)
where
  follow (p : ScopePath) : List PathMove → Except Failure (List ScopePath)
    | [] => return []
    | move :: moves => do
      let next ← move.apply p
      return next :: (← follow next moves)

inductive VarRecipe where
  | document (d : Document)
  | declared (name : String) (scope : PathRecipe) (kind : VarKind)
  deriving Repr

def VarRecipe.make : VarRecipe → Except Failure TypeVar
  | document d => orFail (TypeVar.ofDocument d)
  | declared name scope kind => do orFail (TypeVar.declare name (← scope.make) kind)

instance : Recipe VarRecipe TypeVar := ⟨VarRecipe.make⟩

inductive IdRecipe where
  | text (s : String)
  | document (d : Document)
  | ofVar (v : VarRecipe)
  | declared (name : String) (scope : PathRecipe)
  deriving Repr

def IdRecipe.make : IdRecipe → Except Failure VarId
  | text s => orFail (VarId.ofText s)
  | document d => orFail (VarId.ofDocument d)
  | ofVar v => return (← v.make).id
  | declared name scope => do orFail (VarId.declare name (← scope.make))

instance : Recipe IdRecipe VarId := ⟨IdRecipe.make⟩

instance : Recipe (TypeTerm IdRecipe) (TypeTerm VarId) := ⟨TypeTerm.mapVars IdRecipe.make⟩

end BindingStore
