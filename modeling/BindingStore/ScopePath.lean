import BindingStore.Text.Blank
import BindingStore.Text.Pieces

namespace BindingStore

open Text (pieces trim separator)

structure ScopePath where
  segments : List String
  deriving DecidableEq, Repr

namespace ScopePath

def root : ScopePath := ⟨[]⟩

instance : Inhabited ScopePath := ⟨root⟩

/-- The trimmed pieces of a text that are not blank. -/
def segmentsOf (s : String) : List String :=
  (((pieces s.toList).map trim).filter fun piece => !piece.isEmpty).map String.ofList

def ofText (s : String) : ScopePath := ⟨segmentsOf s⟩

def ofTexts (texts : List String) : ScopePath := ⟨texts.flatMap segmentsOf⟩

def text (p : ScopePath) : String := separator.intercalate p.segments

def isRoot (p : ScopePath) : Bool := p.segments.isEmpty

def length (p : ScopePath) : Nat := p.segments.length

def name? (p : ScopePath) : Option String := p.segments.getLast?

def parent (p : ScopePath) : ScopePath := ⟨p.segments.dropLast⟩

def append (p : ScopePath) (s : String) : ScopePath := ⟨p.segments ++ segmentsOf s⟩

instance : Ord ScopePath := ⟨compareOn segments⟩

instance : Std.TransOrd ScopePath :=
  inferInstanceAs (Std.TransCmp (compareOn segments))

instance : Std.LawfulEqOrd ScopePath where
  eq_of_compare {a b} same := by
    cases a
    cases b
    exact congrArg mk (Std.LawfulEqCmp.eq_of_compare same)

@[simp]
theorem segments_ofText (s : String) : (ofText s).segments = segmentsOf s := rfl

@[simp]
theorem segments_ofTexts (texts : List String) :
    (ofTexts texts).segments = texts.flatMap segmentsOf := rfl

@[simp]
theorem segments_parent (p : ScopePath) : p.parent.segments = p.segments.dropLast := rfl

@[simp]
theorem segments_append (p : ScopePath) (s : String) :
    (p.append s).segments = p.segments ++ (ofText s).segments := rfl

theorem isRoot_eq_false_iff (p : ScopePath) : p.isRoot = false ↔ p.segments ≠ [] := by
  simp [isRoot]

theorem ofTexts_concat (texts : List String) (s : String) :
    ofTexts (texts ++ [s]) = (ofTexts texts).append s := by
  simp [ofTexts, append]

end ScopePath

end BindingStore
