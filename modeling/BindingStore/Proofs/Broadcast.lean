import BindingStore.Proofs.History
import BindingStore.Proofs.Run

namespace BindingStore

variable {τ : Type}

namespace Change

def writeInto? (index : Nat) : Change τ → Option (TypeVar × τ)
  | broadcast v type => some (v, type)
  | write target v type => if target = index then some (v, type) else none
  | rebuild _ => none

def IsWrite : Change τ → Prop
  | broadcast .. => True
  | write .. => True
  | rebuild _ => False

theorem isWrite_or_rebuild (change : Change τ) :
    change.IsWrite ∨ ∃ kept, change = .rebuild kept := by
  cases change with
  | broadcast v type | write index v type => exact .inl True.intro
  | rebuild kept => exact .inr ⟨kept, rfl⟩

/-- The writes that reach the set at an index. -/
def received (index : Nat) (changes : List (Change τ)) : List (TypeVar × τ) :=
  changes.filterMap (writeInto? index)

theorem received_cons (index : Nat) (change : Change τ) (rest : List (Change τ)) :
    received index (change :: rest) = (change.writeInto? index).toList ++ received index rest := by
  cases found : change.writeInto? index <;> simp [received, found]

end Change

open Change (received)

variable [Bindable τ]

theorem BindingSet.writeAll_append (s : BindingSet τ) (front back : List (TypeVar × τ)) :
    (s.writeAll (front ++ back)).value = ((s.writeAll front).value.writeAll back).value := by
  induction front generalizing s with
  | nil => rfl
  | cons write rest ih =>
      rcases write with ⟨v, type⟩
      rw [List.cons_append, value_writeAll_cons, ih, value_writeAll_cons]

namespace Solution

theorem sets_attempt {change : Change τ} (write : change.IsWrite) (s : Solution τ) :
    (s.attempt change).value.sets =
      s.sets.mapIdx fun index set => (set.writeAll (change.writeInto? index).toList).value := by
  apply List.ext_getElem?
  intro index
  rw [List.getElem?_mapIdx]
  cases change with
  | broadcast v type => rw [attempt_broadcast, sets_broadcast, List.getElem?_map]; rfl
  | write target v type =>
      cases found : s.sets[target]? with
      | none =>
          have beyond : s.size ≤ target := List.getElem?_eq_none_iff.mp found
          rw [attempt_write_of_size_le beyond, Logged.value_silent]
          by_cases same : target = index
          · rw [← same, found]
            rfl
          · simp [Change.writeInto?, same]
      | some set =>
          rw [attempt_write_of_getElem? found, Logged.value_map, sets_replace, List.getElem?_set]
          by_cases same : target = index
          · have inside : target < s.sets.length := (List.getElem?_eq_some_iff.mp found).1
            rw [if_pos same, ← same, if_pos inside, found]
            simp [Change.writeInto?]
          · rw [if_neg same]
            simp [Change.writeInto?, same]
  | rebuild kept => exact write.elim

theorem sets_attemptAll {changes : List (Change τ)} (writes : ∀ change ∈ changes, change.IsWrite)
    (s : Solution τ) :
    (s.attemptAll changes).value.sets =
      s.sets.mapIdx fun index set => (set.writeAll (received index changes)).value := by
  induction changes generalizing s with
  | nil =>
      apply List.ext_getElem?
      intro index
      simp [received]
  | cons change rest ih =>
      rcases List.forall_mem_cons.mp writes with ⟨first, later⟩
      rw [attemptAll_cons, Logged.value_andThen, ih later, sets_attempt first, List.mapIdx_mapIdx]
      congr
      funext index set
      rw [Change.received_cons, BindingSet.writeAll_append]
      rfl

theorem attemptAll_writes_from (v : TypeVar) (type : τ) (todo : List (BindingSet τ)) :
    ∀ (done : List (BindingSet τ)) (s : Solution τ), s.sets = done ++ todo →
      let last := s.attemptAll ((List.range' done.length todo.length).map fun index =>
        .write index v type)
      last.value.sets = done ++ todo.map (fun set => (set.write v type).value) ∧
        last.records = todo.flatMap fun set => (set.write v type).records := by
  induction todo with
  | nil =>
      intro done s parts
      exact ⟨parts, rfl⟩
  | cons set rest ih =>
      intro done s parts
      have found : s.sets[done.length]? = some set := by simp [parts]
      have next : (s.attempt (.write done.length v type)).value.sets =
          (done ++ [(set.write v type).value]) ++ rest := by
        rw [attempt_write_of_getElem? found, Logged.value_map, sets_replace, parts]
        simp
      have tail := ih (done ++ [(set.write v type).value]) _ next
      rw [List.length_append, List.length_singleton] at tail
      simp only [List.length_cons, List.range'_succ, List.map_cons, attemptAll_cons]
      refine ⟨?_, ?_⟩
      · rw [Logged.value_andThen, tail.1]
        simp
      · rw [Logged.records_andThen, tail.2, attempt_write_of_getElem? found]
        rfl

theorem attemptAll_writes_eq_broadcast (s : Solution τ) (v : TypeVar) (type : τ) :
    s.attemptAll ((List.range s.size).map fun index => .write index v type) =
      s.broadcast v type := by
  have swept := attemptAll_writes_from v type s.sets [] s rfl
  rw [List.length_nil, ← List.range_eq_range'] at swept
  rcases swept with ⟨sets, records⟩
  rw [show s.size = s.sets.length from rfl]
  generalize s.attemptAll _ = last at sets records
  rcases last with ⟨value, trail⟩
  cases eq_of_sets (b := (s.broadcast v type).value) sets
  cases records
  rfl

/-- Each set of a solution becomes what it would become alone, under the broadcasts and its own
writes in their order, and no write into it shows in another. A broadcast does what single writes
into all sets do, one after another. -/
theorem sets_attemptAll_ofSets (sets : List (BindingSet τ)) (nonempty : sets ≠ [])
    (changes : List (Change τ)) (writes : ∀ change ∈ changes, change.IsWrite) :
    let last := ((ofSets sets).value.attemptAll changes).value
    last.sets = sets.mapIdx (fun index set => (set.writeAll (received index changes)).value) ∧
    (∀ index < sets.length, ∀ v type, ∃ next, last.writeAt index v type = .ok next ∧
      ∀ other, other ≠ index → next.value.sets[other]? = last.sets[other]?) ∧
    ∀ v type, last.attemptAll ((List.range sets.length).map fun index => .write index v type) =
      last.broadcast v type := by
  intro last
  have projected : last.sets =
      sets.mapIdx fun index set => (set.writeAll (received index changes)).value := by
    rw [sets_attemptAll writes, sets_ofSets nonempty]
  have size : last.size = sets.length := by rw [Solution.size, projected, List.length_mapIdx]
  refine ⟨projected, ?_, ?_⟩
  · intro index inside v type
    rw [← size] at inside
    have found : last.sets[index]? = some last.sets[index] := List.getElem?_eq_getElem inside
    refine ⟨_, writeAt_of_getElem? found v type, ?_⟩
    intro other apart
    rw [Logged.value_map, sets_replace, List.getElem?_set_ne apart.symm]
  · intro v type
    rw [← size]
    exact last.attemptAll_writes_eq_broadcast v type

theorem sets_attemptAll_branches :
    let t : TypeVar := ⟨⟨"T", ⟨["f"]⟩⟩, .type⟩
    let u : TypeVar := ⟨⟨"T", ⟨["g"]⟩⟩, .paramSpec⟩
    let sets : List (BindingSet Int) := [.empty, .ofScopes [⟨["f"]⟩]]
    let changes : List (Change Int) :=
      [.write 1 u 1, .broadcast t 2, .write 0 t 3, .broadcast u 4, .write 2 t 5]
    sets ≠ [] ∧ (∀ change ∈ changes, change.IsWrite) ∧
      ((ofSets sets).value.attemptAll changes).value.sets.map BindingSet.toList =
        [[(t.id, 3), (u.id, 4)], [(u.id, 4), (t.id, 2)]] := by
  intro t u sets changes
  have nonempty : sets ≠ [] := List.cons_ne_nil _ _
  have writes : ∀ change ∈ changes, change.IsWrite := by simp [changes, Change.IsWrite]
  refine ⟨nonempty, writes, ?_⟩
  rw [(sets_attemptAll_ofSets sets nonempty changes writes).1]
  decide

end Solution

end BindingStore
