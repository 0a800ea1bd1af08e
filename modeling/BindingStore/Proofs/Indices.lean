import BindingStore.Proofs.Equality
import BindingStore.Proofs.Sessions

namespace BindingStore

theorem filterMap_range_getElem? {α : Type} (values : List α) :
    ((List.range values.length).filterMap fun index => values[index]?) = values := by
  induction values with
  | nil => rfl
  | cons head tail ih =>
      rw [List.length_cons, List.range_succ_eq_map, List.filterMap_cons, List.filterMap_map]
      simp only [List.getElem?_cons_zero, Function.comp_def, Nat.succ_eq_add_one,
        List.getElem?_cons_succ, ih]

namespace Change

variable {τ : Type}

/-- A rebuild keeps the sets of a solution of this size where it takes over each once, in order. -/
def KeepsSets (size : Nat) : Change τ → Prop
  | broadcast .. => True
  | write .. => True
  | rebuild kept => kept = List.range size

end Change

namespace Step

variable {ρ τ : Type} [Recipe ρ τ]

/-- A step that leaves a solution of this size with the sets that it has, if with other bindings. -/
def KeepsSets (size : Nat) : Step ρ → Prop
  | writeAll .. => True
  | write .. => True
  | rebuild kept => kept = List.range size
  | snapshot => True
  | restore => False
  | ask _ => True

theorem KeepsSets.ne_restore {size : Nat} {step : Step ρ} (keeps : step.KeepsSets size) :
    step ≠ .restore := by
  intro back
  subst back
  exact keeps

theorem KeepsSets.of_change? {size : Nat} {step : Step ρ} {change : Change τ}
    (keeps : step.KeepsSets size) (asked : step.change? = some change) : change.KeepsSets size := by
  cases step with
  | writeAll v type | write set v type =>
      rcases Option.map_eq_some_iff.mp asked with ⟨write, -, rfl⟩
      exact True.intro
  | rebuild kept =>
      cases asked
      exact keeps
  | snapshot | restore | ask query => cases asked

theorem keepsSets_changes {size : Nat} {steps : List (Step ρ)}
    (keep : ∀ step ∈ steps, step.KeepsSets size) :
    ∀ change ∈ (steps.filterMap Step.change? : List (Change τ)), change.KeepsSets size := by
  intro change member
  rcases List.mem_filterMap.mp member with ⟨step, inside, asked⟩
  exact (keep step inside).of_change? asked

end Step

namespace Solution

variable {τ : Type}

/-- The solutions as they are built, by the number of sets that are given. -/
inductive Built : Nat → Solution τ → Prop where
  | fresh : Built 0 fresh
  | ofSets (sets : List (BindingSet τ)) : Built sets.length (ofSets sets).value

theorem Built.size {count : Nat} {s : Solution τ} (built : Built count s) : s.size = max 1 count := by
  cases built with
  | fresh => rfl
  | ofSets sets =>
      cases sets with
      | nil => rfl
      | cons set rest => simp [Solution.size, Solution.ofSets]

theorem size_pos (s : Solution τ) : 0 < s.size := List.length_pos_iff.mpr s.nonempty

theorem ofSets_sets (s : Solution τ) : (ofSets s.sets).value = s :=
  eq_of_sets (sets_ofSets s.nonempty)

theorem rebuild_range (s : Solution τ) : s.rebuild (List.range s.size) = ofSets s.sets := by
  rw [rebuild, size, filterMap_range_getElem?]

theorem forEach_collects (s : Solution τ) :
    s.forEach (fun seen set index => seen ++ [(set, index)]) [] = s.sets.zipIdx :=
  foldl_collects s.sets.zipIdx []

theorem get_of_getElem? {s : Solution τ} {index : Nat} {set : BindingSet τ}
    (found : s.sets[index]? = some set) : s.get index = .ok set ∧ s.tryGet index = .ok set :=
  ⟨get_eq_ok_iff.mpr found, tryGet_eq_ok_iff.mpr found⟩

theorem get_of_size_le {s : Solution τ} {index : Nat} (beyond : s.size ≤ index) :
    s.get index = .error (.outOfRange index s.size) ∧
      s.tryGet index = .error (.outOfRange index s.size) := by
  have absent : s.sets[index]? = none := List.getElem?_eq_none_iff.mpr beyond
  rw [get, tryGet, absent]
  exact ⟨rfl, rfl⟩

variable [Bindable τ]

theorem size_attempt {change : Change τ} {s : Solution τ} (keeps : change.KeepsSets s.size) :
    (s.attempt change).value.size = s.size := by
  cases change with
  | broadcast v type => rw [attempt_broadcast, size_broadcast]
  | write index v type =>
      rw [attempt_write]
      cases s.sets[index]? with
      | none => rfl
      | some set => exact s.size_replace index _
  | rebuild kept => rw [attempt_rebuild, keeps, rebuild_range, ofSets_sets]

theorem size_attemptAll {changes : List (Change τ)} {s : Solution τ}
    (keep : ∀ change ∈ changes, change.KeepsSets s.size) :
    (s.attemptAll changes).value.size = s.size := by
  induction changes generalizing s with
  | nil => rfl
  | cons change rest ih =>
      rcases List.forall_mem_cons.mp keep with ⟨first, later⟩
      have kept := size_attempt first
      rw [attemptAll_cons, Logged.value_andThen, ih (kept.symm ▸ later), kept]

structure IndexContract [DecidableEq τ] (s : Solution τ) : Prop where
  main : ∃ set, s.get mainIndex = .ok set ∧ s.sets.head? = some set ∧
    ∀ v type, ∃ next, s.writeAt mainIndex v type = .ok next
  /-- Each access finds the set that stands at the index, and a write goes into that set. -/
  inside : ∀ index < s.size, ∃ set, s.sets[index]? = some set ∧ s.get index = .ok set ∧
    s.tryGet index = .ok set ∧ ∀ v type, ∃ next, s.writeAt index v type = .ok next ∧
      next.value.sets = s.sets.set index (set.write v type).value ∧
      next.records = (set.write v type).records
  /-- Each access is refused, the promised one with the text of the error. -/
  beyond : ∀ index, s.size ≤ index → ∃ violation error, s.get index = .error violation ∧
    (∀ v type, s.writeAt index v type = .error violation) ∧ s.tryGet index = .error error ∧
    error.kind = .index ∧ violation.message = error.text
  visited : s.forEach (fun seen set index => seen ++ [(set, index)]) [] = s.sets.zipIdx
  rebuilt : s.rebuild (List.range s.size) = ofSets s.sets ∧ (ofSets s.sets).value.sets = s.sets ∧
    ((ofSets s.sets).value == s) = true

theorem indexContract [DecidableEq τ] (s : Solution τ) : IndexContract s := by
  have inside : ∀ index < s.size, ∃ set, s.sets[index]? = some set ∧ s.get index = .ok set ∧
      s.tryGet index = .ok set ∧ ∀ v type, ∃ next, s.writeAt index v type = .ok next ∧
        next.value.sets = s.sets.set index (set.write v type).value ∧
        next.records = (set.write v type).records := by
    intro index bound
    have found : s.sets[index]? = some s.sets[index] := List.getElem?_eq_getElem bound
    rcases get_of_getElem? found with ⟨got, tried⟩
    refine ⟨s.sets[index], found, got, tried, ?_⟩
    intro v type
    exact ⟨_, writeAt_of_getElem? found v type, rfl, rfl⟩
  constructor
  case main =>
    rcases inside mainIndex s.size_pos with ⟨set, found, got, -, write⟩
    refine ⟨set, got, ?_, ?_⟩
    · rw [List.head?_eq_getElem?]
      exact found
    · intro v type
      rcases write v type with ⟨next, written, -⟩
      exact ⟨next, written⟩
  case inside => exact inside
  case beyond =>
    intro index bound
    rcases get_of_size_le bound with ⟨refused, failed⟩
    exact ⟨_, _, refused, writeAt_of_size_le bound, failed, rfl, rfl⟩
  case visited => exact s.forEach_collects
  case rebuilt =>
    refine ⟨s.rebuild_range, sets_ofSets s.nonempty, ?_⟩
    rw [ofSets_sets]
    exact s.beq_self

end Solution

namespace State

variable {ρ τ : Type} [Recipe ρ τ] [Bindable τ] [DecidableEq τ]

/-- However a solution is built and whatever is asked of it and written into it, it keeps its number
of sets and its promises about their indices, and what is refused or only read leaves no trace. -/
theorem attemptAll_keeps_indices {count : Nat} {start : Solution τ}
    (built : Solution.Built count start) (steps : List (Step ρ))
    (keep : ∀ step ∈ steps, step.KeepsSets (max 1 count)) :
    let last := ((State.start start).attemptAll steps).value
    last.solution.size = max 1 count ∧ last.solution.IndexContract ∧
      (∀ query, last.attempt (.ask query : Step ρ) = .silent last) ∧
      (∀ index, last.solution.size ≤ index → ∀ (v : VarRecipe) (type : ρ),
        last.attempt (.write index v type) = .silent last) ∧
      ∀ back : List (Step ρ), Session.entries (.start start) (steps ++ back) =
        Session.entries (.start start) steps ++ Session.entries last back := by
  intro last
  have forward : ∀ step ∈ steps, step ≠ .restore := fun step member => (keep step member).ne_restore
  have size : last.solution.size = max 1 count := by
    have run := congrArg Logged.value (solution_attemptAll forward (State.start start))
    rw [Logged.value_map] at run
    have kept : ∀ change ∈ (steps.filterMap Step.change? : List (Change τ)),
        change.KeepsSets start.size := by
      rw [built.size]
      exact Step.keepsSets_changes keep
    calc
      last.solution.size = (start.attemptAll (steps.filterMap Step.change?)).value.size := by
        rw [show last.solution = _ from run]
        rfl
      _ = start.size := Solution.size_attemptAll kept
      _ = max 1 count := built.size
  refine ⟨size, last.solution.indexContract, last.attempt_ask, ?_, ?_⟩
  · intro index beyond v type
    exact attempt_write_of_size_le beyond v type
  · exact Session.entries_append (State.start start) steps

theorem attemptAll_keeps_indices_branches :
    let t : VarRecipe := .declared "T" (.text "f") .type
    let sets : List (BindingSet Int) := [.empty, .ofScopes [⟨["f"]⟩]]
    let steps : List (Step Int) :=
      [.write 1 t 1, .ask (.text 2), .write 2 t 5, .rebuild [0, 1], .writeAll t 2]
    let last := ((State.start (Solution.ofSets sets).value).attemptAll steps).value
    Solution.Built 2 (Solution.ofSets sets).value ∧
      (∀ step ∈ steps, step.KeepsSets (max 1 2)) ∧
      last.solution.size = 2 ∧ ∃ set, last.solution.get 1 = .ok set ∧
        last.solution.tryGet 1 = .ok set := by
  intro t sets steps last
  have built : Solution.Built 2 (Solution.ofSets sets).value := .ofSets sets
  have keep : ∀ step ∈ steps, step.KeepsSets (max 1 2) := by
    simp [steps, Step.KeepsSets, List.range_succ]
  rcases attemptAll_keeps_indices built steps keep with ⟨size, contract, -⟩
  rcases contract.inside 1 (size ▸ by decide) with ⟨set, -, got, tried, -⟩
  exact ⟨built, keep, size, set, got, tried⟩

end State

end BindingStore
