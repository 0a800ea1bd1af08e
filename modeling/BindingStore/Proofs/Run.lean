import BindingStore.Solution

/-! Runs of a solution: changes that are attempted one after another. A change that fails leaves the
solution as it was and makes no record. -/

namespace BindingStore

namespace Solution

variable {τ : Type}

theorem eq_of_sets {a b : Solution τ} (same : a.sets = b.sets) : a = b := by
  cases a
  cases b
  cases same
  rfl

theorem sets_ofSets {sets : List (BindingSet τ)} (nonempty : sets ≠ []) :
    (ofSets sets).value.sets = sets := by
  cases sets with
  | nil => exact absurd rfl nonempty
  | cons set rest => rfl

@[simp]
theorem sets_replace (s : Solution τ) (index : Nat) (set : BindingSet τ) :
    (s.replace index set).sets = s.sets.set index set := rfl

variable [Bindable τ]

theorem writeAt_of_getElem? {s : Solution τ} {index : Nat} {set : BindingSet τ}
    (found : s.sets[index]? = some set) (v : TypeVar) (type : τ) :
    s.writeAt index v type = .ok ((set.write v type).map (s.replace index)) := by
  rw [writeAt, get_eq_ok_iff.mpr found]
  rfl

theorem writeAt_of_size_le {s : Solution τ} {index : Nat} (beyond : s.size ≤ index)
    (v : TypeVar) (type : τ) : s.writeAt index v type = .error (.outOfRange index s.size) := by
  have absent : s.sets[index]? = none := List.getElem?_eq_none_iff.mpr beyond
  rw [writeAt, get, absent]
  rfl

def attempt (s : Solution τ) (change : Change τ) : Logged (Solution τ) :=
  match s.change change with
  | .error _ => .silent s
  | .ok next => next

def attemptAll (s : Solution τ) : List (Change τ) → Logged (Solution τ)
  | [] => .silent s
  | change :: rest => (s.attempt change).andThen fun next => next.attemptAll rest

@[simp]
theorem attemptAll_nil (s : Solution τ) : s.attemptAll [] = .silent s := rfl

theorem attemptAll_cons (s : Solution τ) (change : Change τ) (rest : List (Change τ)) :
    s.attemptAll (change :: rest) = (s.attempt change).andThen fun next => next.attemptAll rest :=
  rfl

@[simp]
theorem attempt_broadcast (s : Solution τ) (v : TypeVar) (type : τ) :
    s.attempt (.broadcast v type) = s.broadcast v type := rfl

@[simp]
theorem attempt_rebuild (s : Solution τ) (kept : List Nat) :
    s.attempt (.rebuild kept) = s.rebuild kept := rfl

theorem attempt_write (s : Solution τ) (index : Nat) (v : TypeVar) (type : τ) :
    s.attempt (.write index v type) =
      match s.sets[index]? with
      | none => .silent s
      | some set => (set.write v type).map (s.replace index) := by
  rw [attempt, change, writeAt, get]
  cases s.sets[index]? <;> rfl

theorem attempt_write_of_getElem? {s : Solution τ} {index : Nat} {set : BindingSet τ}
    (found : s.sets[index]? = some set) (v : TypeVar) (type : τ) :
    s.attempt (.write index v type) = (set.write v type).map (s.replace index) := by
  rw [attempt_write, found]

theorem attempt_write_of_size_le {s : Solution τ} {index : Nat} (beyond : s.size ≤ index)
    (v : TypeVar) (type : τ) : s.attempt (.write index v type) = .silent s := by
  rw [attempt_write, List.getElem?_eq_none beyond]

end Solution

end BindingStore
