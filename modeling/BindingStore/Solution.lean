import BindingStore.BindingSet

/-! Solutions: one binding set for each hypothesis that is being explored. There is always a set,
and the number of sets is fixed when the solution is built. -/

namespace BindingStore

open Text (Layout)

structure Solution (τ : Type) where
  sets : List (BindingSet τ)
  nonempty : sets ≠ []

namespace Solution

variable {τ : Type}

def fresh : Solution τ := ⟨[.empty], List.cons_ne_nil _ _⟩

/-- Without any sets the solution starts with one empty set. -/
def ofSets : List (BindingSet τ) → Logged (Solution τ)
  | [] => .silent fresh
  | set :: sets =>
    ⟨⟨set :: sets, List.cons_ne_nil _ _⟩,
      [⟨.debug, "solution with " ++ toString (sets.length + 1) ++ " candidate set(s)"⟩]⟩

def size (s : Solution τ) : Nat := s.sets.length

def isEmpty (s : Solution τ) : Bool := s.sets.all BindingSet.isEmpty

/-- The index of the set that stands for the whole solution where no other is named. -/
def mainIndex : Nat := 0

/-- The set at an index that callers promise to be in range. -/
def get (s : Solution τ) (index : Nat) : Except Violation (BindingSet τ) :=
  match s.sets[index]? with
  | none => .error (.outOfRange index s.size)
  | some set => .ok set

/-- The set at an index that may be out of range. -/
def tryGet (s : Solution τ) (index : Nat) : Except StoreError (BindingSet τ) :=
  match s.sets[index]? with
  | none => .error (.outOfRange index s.size)
  | some set => .ok set

def forEach {σ : Type} (s : Solution τ) (visit : σ → BindingSet τ → Nat → σ) (start : σ) : σ :=
  s.sets.zipIdx.foldl (fun state (set, index) => visit state set index) start

def replace (s : Solution τ) (index : Nat) (set : BindingSet τ) : Solution τ :=
  ⟨s.sets.set index set, by simpa using s.nonempty⟩

instance [DecidableEq τ] : BEq (Solution τ) where
  beq a b := a.sets == b.sets

theorem get_eq_ok_iff {s : Solution τ} {index : Nat} {set : BindingSet τ} :
    s.get index = .ok set ↔ s.sets[index]? = some set := by
  cases found : s.sets[index]? <;> simp [get, found]

theorem tryGet_eq_ok_iff {s : Solution τ} {index : Nat} {set : BindingSet τ} :
    s.tryGet index = .ok set ↔ s.sets[index]? = some set := by
  cases found : s.sets[index]? <;> simp [tryGet, found]

@[simp]
theorem size_replace (s : Solution τ) (index : Nat) (set : BindingSet τ) :
    (s.replace index set).size = s.size := by
  simp [size, replace]

variable [Bindable τ]

def writeAt (s : Solution τ) (index : Nat) (v : TypeVar) (type : τ) :
    Except Violation (Logged (Solution τ)) := do
  let set ← s.get index
  return (set.write v type).map (s.replace index)

def broadcast (s : Solution τ) (v : TypeVar) (type : τ) : Logged (Solution τ) :=
  let written := Logged.each (fun set => set.write v type) s.sets
  ⟨⟨written.value, by simpa [written] using s.nonempty⟩, written.records⟩

def rebuild (s : Solution τ) (kept : List Nat) : Logged (Solution τ) :=
  ofSets (kept.filterMap fun index => s.sets[index]?)

def display (layout : Layout) (s : Solution τ) : String :=
  layout.array (s.sets.map (BindingSet.display layout))

def shown (s : Solution τ) : String := s.display .line

@[simp]
theorem sets_broadcast (s : Solution τ) (v : TypeVar) (type : τ) :
    (s.broadcast v type).value.sets = s.sets.map fun set => (set.write v type).value := rfl

@[simp]
theorem size_broadcast (s : Solution τ) (v : TypeVar) (type : τ) :
    (s.broadcast v type).value.size = s.size := by
  simp [size]

end Solution

inductive Change (τ : Type) where
  | broadcast (var : TypeVar) (type : τ)
  | write (index : Nat) (var : TypeVar) (type : τ)
  | rebuild (kept : List Nat)
  deriving DecidableEq, Repr

def Solution.change {τ : Type} [Bindable τ] (s : Solution τ) :
    Change τ → Except Violation (Logged (Solution τ))
  | .broadcast v type => .ok (s.broadcast v type)
  | .write index v type => s.writeAt index v type
  | .rebuild kept => .ok (s.rebuild kept)

end BindingStore
