import BindingStore.Session.Step

namespace BindingStore

/-- An answer with the text of the solution, where it is given, and the records made since the
answer before. -/
structure Entry (τ : Type) where
  answer : Except Failure (Reply τ × Option String)
  records : List Record

structure Session (ρ : Type) where
  sets : List (SetRecipe ρ)
  /-- Whether the solution starts with the sets or with a fresh one. -/
  branched : Bool
  steps : List (Step ρ)

namespace Session

variable {ρ τ : Type} [Recipe ρ τ] [Bindable τ]

/-- The sets are made even where the solution does not start with them. -/
def start (session : Session ρ) : Except Failure (Logged (Solution τ)) := do
  let sets ← SetRecipe.makeAll session.sets
  return sets.andThen fun sets => if session.branched then Solution.ofSets sets else .silent .fresh

def entries [DecidableEq τ] (state : State τ) : List (Step ρ) → List (Entry τ)
  | [] => []
  | step :: steps =>
    match state.take step with
    | .error failure => ⟨.error failure, []⟩ :: entries state steps
    | .ok outcome =>
      ⟨.ok (outcome.reply, outcome.text?), outcome.records⟩ :: entries outcome.state steps

def run [DecidableEq τ] (session : Session ρ) : Except Failure (List (Entry τ)) := do
  let opened ← session.start
  let first := (.count opened.value.size, some opened.value.shown)
  return ⟨.ok first, opened.records⟩ :: entries (.start opened.value) session.steps

end Session

end BindingStore
