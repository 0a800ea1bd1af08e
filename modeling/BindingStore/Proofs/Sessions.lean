import BindingStore.Proofs.Run
import BindingStore.Session

/-! Runs of a session. A step does to the solution what the change does that it asks for, if it asks
for one whose values can be made; a query or a step that fails leaves everything as it was. What
holds of every run of changes therefore holds of every session. -/

namespace BindingStore

namespace Logged

variable {α β γ : Type}

theorem map_andThen (x : Logged α) (f : α → Logged β) (g : β → γ) :
    (x.andThen f).map g = x.andThen fun value => (f value).map g := rfl

theorem andThen_map (x : Logged α) (f : α → β) (g : β → Logged γ) :
    (x.map f).andThen g = x.andThen fun value => g (f value) := rfl

theorem silent_andThen (value : α) (f : α → Logged β) : (silent value).andThen f = f value := rfl

end Logged

variable {ρ τ : Type} [Recipe ρ τ]

/-- The change that a step asks for. A step whose values cannot be made asks for none. -/
def Step.change? : Step ρ → Option (Change τ)
  | .writeAll v type => (readWrite v type).toOption.map fun (v, type) => .broadcast v type
  | .write set v type => (readWrite v type).toOption.map fun (v, type) => .write set v type
  | .rebuild kept => some (.rebuild kept)
  | .snapshot => none
  | .restore => none
  | .ask _ => none

variable [Bindable τ] [DecidableEq τ]

namespace State

/-- A step that fails leaves the state as it was and makes no record. -/
def attempt (state : State τ) (step : Step ρ) : Logged (State τ) :=
  match state.take step with
  | .error _ => .silent state
  | .ok outcome => ⟨outcome.state, outcome.records⟩

def attemptAll (state : State τ) : List (Step ρ) → Logged (State τ)
  | [] => .silent state
  | step :: rest => (state.attempt step).andThen fun next => next.attemptAll rest

theorem attemptAll_cons (state : State τ) (step : Step ρ) (rest : List (Step ρ)) :
    state.attemptAll (step :: rest) =
      (state.attempt step).andThen fun next => next.attemptAll rest := rfl

theorem attempt_of_take_changed {state : State τ} {step : Step ρ} {change : Change τ}
    (reply : Reply τ) (taken : state.take step = state.changed reply change) :
    state.attempt step =
      (state.solution.attempt change).map fun next => ⟨next, state.snapshot?⟩ := by
  rw [attempt, taken, changed, Solution.attempt]
  cases state.solution.change change <;> rfl

theorem attempt_of_change? {step : Step ρ} {change : Change τ} (asked : step.change? = some change)
    (state : State τ) :
    state.attempt step =
      (state.solution.attempt change).map fun next => ⟨next, state.snapshot?⟩ := by
  cases step with
  | writeAll v type | write set v type =>
      cases made : readWrite v type (τ := τ) with
      | error failure => simp [Step.change?, made, Except.toOption] at asked
      | ok write =>
          simp only [Step.change?, made, Except.toOption, Option.map_some, Option.some.injEq] at asked
          subst asked
          apply attempt_of_take_changed .nothing
          rw [take, made]
          rfl
  | rebuild kept =>
      simp only [Step.change?, Option.some.injEq] at asked
      subst asked
      exact attempt_of_take_changed _ rfl
  | snapshot | restore | ask query => cases asked

theorem attempt_ask (state : State τ) (query : Query) :
    state.attempt (.ask query : Step ρ) = .silent state := by
  rw [attempt, take]
  cases state.answer query <;> rfl

theorem solution_attempt_of_no_change {step : Step ρ}
    (none : (step.change? : Option (Change τ)) = none) (forward : step ≠ .restore)
    (state : State τ) : (state.attempt step).map State.solution = .silent state.solution := by
  cases step with
  | writeAll v type | write set v type =>
      cases made : readWrite v type (τ := τ) with
      | error failure =>
          rw [attempt, take, made]
          rfl
      | ok write => simp [Step.change?, made, Except.toOption] at none
  | rebuild kept => cases none
  | snapshot => rfl
  | restore => exact absurd rfl forward
  | ask query => rw [attempt_ask]; rfl

theorem attempt_write_of_size_le {state : State τ} {index : Nat}
    (beyond : state.solution.size ≤ index) (v : VarRecipe) (type : ρ) :
    state.attempt (.write index v type) = .silent state := by
  cases made : readWrite v type (τ := τ) with
  | error failure =>
      rw [attempt, take, made]
      rfl
  | ok write =>
      have asked : (Step.write index v type).change? = some (.write index write.1 write.2) := by
        rw [Step.change?, made]
        rfl
      rw [attempt_of_change? asked, Solution.attempt_write_of_size_le beyond]
      rfl

/-- A session that never goes back to a snapshot does to its solution what the changes do that its
steps ask for. -/
theorem solution_attemptAll {steps : List (Step ρ)} (forward : ∀ step ∈ steps, step ≠ .restore)
    (state : State τ) :
    (state.attemptAll steps).map State.solution =
      state.solution.attemptAll (steps.filterMap Step.change?) := by
  induction steps generalizing state with
  | nil => rfl
  | cons step rest ih =>
      rcases List.forall_mem_cons.mp forward with ⟨first, later⟩
      have tail : (state.attemptAll (step :: rest)).map State.solution =
          ((state.attempt step).map State.solution).andThen fun next =>
            next.attemptAll (rest.filterMap Step.change?) := by
        rw [attemptAll_cons, Logged.map_andThen, Logged.andThen_map]
        simp only [ih later]
      rw [tail]
      cases asked : (step.change? : Option (Change τ)) with
      | none =>
          rw [List.filterMap_cons_none asked, solution_attempt_of_no_change asked first]
          exact Logged.silent_andThen _ _
      | some change =>
          rw [List.filterMap_cons_some asked, attempt_of_change? asked, Solution.attemptAll_cons]
          rfl

end State

theorem Session.entries_append (state : State τ) (front back : List (Step ρ)) :
    Session.entries state (front ++ back) =
      Session.entries state front ++ Session.entries (state.attemptAll front).value back := by
  induction front generalizing state with
  | nil => rfl
  | cons step rest ih =>
      rw [State.attemptAll_cons, State.attempt]
      cases taken : state.take step <;> simp [Session.entries, taken, ih]

theorem Session.records_entries (state : State τ) (steps : List (Step ρ)) :
    (Session.entries state steps).flatMap Entry.records = (state.attemptAll steps).records := by
  induction steps generalizing state with
  | nil => rfl
  | cons step rest ih =>
      rw [State.attemptAll_cons, State.attempt]
      cases taken : state.take step <;> simp [Session.entries, taken, ih]

end BindingStore
