import BindingStore.Proofs.Carried
import BindingStore.Proofs.Equality
import BindingStore.Proofs.Sessions

namespace BindingStore

namespace BindingSet

variable {τ : Type}

/-- What a set shows of the scopes that it was made with. Made without any it covers every scope,
made with an empty list of them it covers none. -/
def AnswersFor : Option (List ScopePath) → BindingSet τ → Prop
  | none, s => s.scopes? = none ∧ ∀ scope, s.covers scope = true
  | some scopes, s =>
    (∃ kept, s.scopes? = some kept ∧ kept.Nodup ∧ ∀ scope, scope ∈ kept ↔ scope ∈ scopes) ∧
      ∀ scope, s.covers scope = true ↔ ∃ named ∈ scopes, named.segments = scope.segments

theorem answersFor_fresh (scopes? : Option (List ScopePath)) :
    AnswersFor scopes? (fresh scopes? : BindingSet τ) := by
  cases scopes? with
  | none => exact ⟨rfl, fun _ => rfl⟩
  | some scopes =>
      have distinct : (ascending scopes).Nodup := (ascending_sorted scopes).nodup
      refine ⟨⟨ascending scopes, rfl, distinct, fun _ => mem_ascending⟩, ?_⟩
      intro scope
      have contains : (fresh (some scopes) : BindingSet τ).covers scope = true ↔ scope ∈ scopes :=
        ScopeFilter.contains_ofList scopes scope
      rw [contains]
      constructor
      · intro member
        exact ⟨scope, member, rfl⟩
      · intro found
        obtain ⟨named, member, same⟩ := found
        have equal : named = scope := by
          cases named
          cases scope
          exact congrArg ScopePath.mk same
        rw [← equal]
        exact member

theorem survives_answersFor [Bindable τ] :
    Survives (AnswersFor : Option (List ScopePath) → BindingSet τ → Prop) none where
  empty := answersFor_fresh none
  write {scopes?} {set} answers v type := by cases scopes? <;> exact answers

def unfiltered (s : BindingSet τ) : BindingSet τ := ⟨s.bindings, none⟩

end BindingSet

open BindingSet (AnswersFor)

namespace Solution

variable {τ : Type}

def unfiltered (s : Solution τ) : Solution τ :=
  ⟨s.sets.map BindingSet.unfiltered, by simpa using s.nonempty⟩

@[simp]
theorem sets_unfiltered (s : Solution τ) :
    s.unfiltered.sets = s.sets.map BindingSet.unfiltered := rfl

@[simp]
theorem size_unfiltered (s : Solution τ) : s.unfiltered.size = s.size := List.length_map _

theorem unfiltered_unfiltered (s : Solution τ) : s.unfiltered.unfiltered = s.unfiltered := by
  apply eq_of_sets
  rw [sets_unfiltered, sets_unfiltered, List.map_map]
  rfl

theorem get_unfiltered (s : Solution τ) (index : Nat) :
    s.unfiltered.get index = (s.get index).map BindingSet.unfiltered := by
  rw [get, get, sets_unfiltered, List.getElem?_map, size_unfiltered]
  cases s.sets[index]? <;> rfl

theorem tryGet_unfiltered (s : Solution τ) (index : Nat) :
    s.unfiltered.tryGet index = (s.tryGet index).map BindingSet.unfiltered := by
  rw [tryGet, tryGet, sets_unfiltered, List.getElem?_map, size_unfiltered]
  cases s.sets[index]? <;> rfl

theorem ofSets_unfiltered (sets : List (BindingSet τ)) :
    ofSets (sets.map BindingSet.unfiltered) = (ofSets sets).map unfiltered := by
  cases sets with
  | nil => rfl
  | cons set rest => simp [ofSets, Logged.map, unfiltered]

theorem rebuild_unfiltered (s : Solution τ) (kept : List Nat) :
    s.unfiltered.rebuild kept = (s.rebuild kept).map unfiltered := by
  have found : (kept.filterMap fun index => s.unfiltered.sets[index]?) =
      (kept.filterMap fun index => s.sets[index]?).map BindingSet.unfiltered := by
    rw [List.map_filterMap, sets_unfiltered]
    simp only [List.getElem?_map]
  rw [rebuild, rebuild, found, ofSets_unfiltered]

theorem map_sets_unfiltered {α : Type} {f : BindingSet τ → α}
    (blind : ∀ set, f (BindingSet.unfiltered set) = f set) (s : Solution τ) :
    s.unfiltered.sets.map f = s.sets.map f := by
  rw [sets_unfiltered, List.map_map]
  exact List.map_congr_left fun set _ => blind set

theorem isEmpty_unfiltered (s : Solution τ) : s.unfiltered.isEmpty = s.isEmpty := List.all_map

variable [Bindable τ]

theorem display_unfiltered (layout : Text.Layout) (s : Solution τ) :
    s.unfiltered.display layout = s.display layout := by
  rw [display, display, map_sets_unfiltered fun _ => rfl]

theorem summaries_eq (s : Solution τ) :
    s.forEach (fun seen set index => seen ++ [Summary.of set index]) [] =
      s.sets.zipIdx.map fun (set, index) => .of set index := by
  rw [forEach, List.foldl_append_eq_append, List.nil_append, ← List.flatMap_def,
    List.map_eq_flatMap]

theorem broadcast_unfiltered (s : Solution τ) (v : TypeVar) (type : τ) :
    s.unfiltered.broadcast v type = (s.broadcast v type).map unfiltered := by
  apply Logged.ext
  · apply eq_of_sets
    rw [Logged.value_map, sets_broadcast, sets_unfiltered, sets_unfiltered, sets_broadcast,
      List.map_map, List.map_map]
    rfl
  · exact List.flatMap_map BindingSet.unfiltered _ s.sets

theorem writeAt_unfiltered (s : Solution τ) (index : Nat) (v : TypeVar) (type : τ) :
    s.unfiltered.writeAt index v type =
      (s.writeAt index v type).map (Logged.map unfiltered) := by
  rw [writeAt, writeAt, get_unfiltered]
  cases s.get index with
  | error violation => rfl
  | ok set =>
      apply congrArg Except.ok
      apply Logged.ext
      · apply eq_of_sets
        rw [Logged.value_map, Logged.value_map, Logged.value_map, sets_replace, sets_unfiltered,
          sets_unfiltered, sets_replace, List.map_set]
        rfl
      · rfl

/-- A change does the same to the bindings, fails for the same reason and makes the same records,
whatever the filters. -/
theorem change_unfiltered (s : Solution τ) (change : Change τ) :
    s.unfiltered.change change = (s.change change).map (Logged.map unfiltered) := by
  cases change with
  | broadcast v type => exact congrArg Except.ok (s.broadcast_unfiltered v type)
  | write index v type => exact s.writeAt_unfiltered index v type
  | rebuild kept => exact congrArg Except.ok (s.rebuild_unfiltered kept)

end Solution

def Summary.unfiltered (summary : Summary) : Summary := { summary with scopes? := none }

theorem Solution.summaries_unfiltered {τ : Type} [Bindable τ] (s : Solution τ) :
    (s.unfiltered.forEach (fun seen set index => seen ++ [Summary.of set index]) []).map
        Summary.unfiltered =
      (s.forEach (fun seen set index => seen ++ [Summary.of set index]) []).map
        Summary.unfiltered := by
  rw [summaries_eq, summaries_eq, sets_unfiltered, List.zipIdx_map, List.map_map, List.map_map,
    List.map_map]
  rfl

/-- A reply without what it tells of filters. Whether two sets are equal is told of their filters
too. -/
def Query.hide {τ : Type} : Query → Reply τ → Reply τ
  | .covers .., _ => .nothing
  | .coversEach .., _ => .nothing
  | .scopes .., _ => .nothing
  | .equalSets .., _ => .nothing
  | .equalsSnapshot, _ => .nothing
  | .summaries, .summaries found => .summaries (found.map Summary.unfiltered)
  | _, reply => reply

namespace State

variable {τ : Type}

def unfiltered (state : State τ) : State τ :=
  ⟨state.solution.unfiltered, state.snapshot?.map Solution.unfiltered⟩

@[simp]
theorem solution_unfiltered (state : State τ) :
    state.unfiltered.solution = state.solution.unfiltered := rfl

theorem unfiltered_unfiltered (state : State τ) :
    state.unfiltered.unfiltered = state.unfiltered := by
  rcases state with ⟨solution, snapshot?⟩
  have copies : (snapshot?.map Solution.unfiltered).map Solution.unfiltered =
      snapshot?.map Solution.unfiltered := by
    cases snapshot? with
    | none => rfl
    | some copy => exact congrArg some copy.unfiltered_unfiltered
  rw [unfiltered, unfiltered, copies, solution.unfiltered_unfiltered]

theorem restored_unfiltered (state : State τ) :
    state.unfiltered.restored = state.restored.unfiltered := by
  rcases state with ⟨solution, snapshot?⟩
  cases snapshot? <;> rfl

theorem get_unfiltered (state : State τ) (set : Nat) :
    state.unfiltered.get set = (state.get set).map BindingSet.unfiltered := by
  rw [get, get, solution_unfiltered, Solution.get_unfiltered]
  cases state.solution.get set <;> rfl

variable [Bindable τ] [DecidableEq τ]

/-- A query is answered, or fails, in the same way whatever the filters, but for what it tells of
them. -/
theorem answer_unfiltered (state : State τ) (query : Query) :
    (state.unfiltered.answer query).map query.hide = (state.answer query).map query.hide := by
  cases query with
  | equalsSnapshot => rfl
  | equalSets first second =>
      rw [answer, answer, get_unfiltered, get_unfiltered]
      cases state.get first with
      | error failure => rfl
      | ok set => cases state.get second <;> rfl
  | lookup set v | lookupId set v | lookupSignature set v | covers set v =>
      rw [answer, answer, get_unfiltered]
      cases state.get set with
      | error failure => rfl
      | ok set => cases v.make <;> rfl
  | lookupEach v =>
      rw [answer, answer]
      cases v.make with
      | error failure => rfl
      | ok v =>
          have same : state.unfiltered.solution.sets.map (fun set => set.lookup v) =
              state.solution.sets.map fun set => set.lookup v :=
            state.solution.map_sets_unfiltered fun _ => rfl
          exact congrArg (fun types => Except.ok (Reply.types types)) same
  | coversEach scope =>
      rw [answer, answer]
      cases scope.make <;> rfl
  | scopes set | setSize set | setIsEmpty set | typedBindings set | bindings set | text set
  | setForms set =>
      rw [answer, answer, get_unfiltered]
      cases state.get set <;> rfl
  | size => rw [answer, answer, solution_unfiltered, Solution.size_unfiltered]
  | isEmpty => rw [answer, answer, solution_unfiltered, Solution.isEmpty_unfiltered]
  | bindingsEach =>
      rw [answer, answer, solution_unfiltered, Solution.map_sets_unfiltered fun _ => rfl]
  | summaries =>
      rw [answer, answer, solution_unfiltered]
      exact congrArg (fun found => Except.ok (Reply.summaries found))
        state.solution.summaries_unfiltered
  | tryText set =>
      rw [answer, answer, solution_unfiltered, Solution.tryGet_unfiltered]
      cases state.solution.tryGet set <;> rfl
  | forms =>
      rw [answer, answer, solution_unfiltered]
      simp only [Solution.display_unfiltered]

end State

section Sessions

variable {ρ τ : Type}

def Step.hide : Step ρ → Reply τ → Reply τ
  | .ask query, reply => query.hide reply
  | _, reply => reply

def Outcome.unfiltered (step : Step ρ) (outcome : Outcome τ) : Outcome τ :=
  ⟨step.hide outcome.reply, outcome.text?, outcome.state.unfiltered, outcome.records⟩

def Entry.unfiltered (step : Step ρ) (entry : Entry τ) : Entry τ :=
  ⟨entry.answer.map fun (reply, text?) => (step.hide reply, text?), entry.records⟩

variable [Bindable τ]

namespace State

theorem changed_unfiltered (state : State τ) (reply : Reply τ) (change : Change τ)
    (step : Step ρ) :
    (state.unfiltered.changed reply change).map (Outcome.unfiltered step) =
      (state.changed reply change).map (Outcome.unfiltered step) := by
  rw [changed, changed, solution_unfiltered, Solution.change_unfiltered]
  cases state.solution.change change with
  | error violation => rfl
  | ok next =>
      have text : next.value.unfiltered.shown = next.value.shown :=
        next.value.display_unfiltered .line
      have same : unfiltered ⟨next.value.unfiltered, state.unfiltered.snapshot?⟩ =
          unfiltered ⟨next.value, state.snapshot?⟩ :=
        unfiltered_unfiltered ⟨next.value, state.snapshot?⟩
      apply congrArg Except.ok
      calc
        _ = Outcome.mk (step.hide reply) (some next.value.unfiltered.shown)
            (unfiltered ⟨next.value.unfiltered, state.unfiltered.snapshot?⟩) next.records := rfl
        _ = Outcome.mk (step.hide reply) (some next.value.shown)
            (unfiltered ⟨next.value, state.snapshot?⟩) next.records := by rw [text, same]

variable [Recipe ρ τ] [DecidableEq τ]

theorem take_unfiltered (state : State τ) (step : Step ρ) :
    (state.unfiltered.take step).map (Outcome.unfiltered step) =
      (state.take step).map (Outcome.unfiltered step) := by
  cases step with
  | writeAll v type =>
      rw [take, take]
      cases readWrite v type with
      | error failure => rfl
      | ok write => exact state.changed_unfiltered .nothing (.broadcast write.1 write.2) _
  | write set v type =>
      rw [take, take]
      cases readWrite v type with
      | error failure => rfl
      | ok write => exact state.changed_unfiltered .nothing (.write set write.1 write.2) _
  | rebuild kept =>
      rw [take, take, solution_unfiltered, Solution.size_unfiltered]
      exact state.changed_unfiltered (.count state.solution.size) (.rebuild kept) _
  | snapshot =>
      have same := unfiltered_unfiltered ⟨state.solution, some state.solution⟩
      exact congrArg (fun next => Except.ok (Outcome.mk .nothing none next [])) same
  | restore =>
      have text : state.restored.unfiltered.solution.shown = state.restored.solution.shown :=
        state.restored.solution.display_unfiltered .line
      rw [take, take, restored_unfiltered, text]
      exact congrArg (fun next => Except.ok (Outcome.mk .nothing _ next []))
        state.restored.unfiltered_unfiltered
  | ask query =>
      -- What a query hides depends on the query alone, so it can be hidden in its answer already.
      have asked (any : State τ) :
          (any.take (.ask query : Step ρ)).map (Outcome.unfiltered (.ask query : Step ρ)) =
            ((any.answer query).map query.hide).map fun reply =>
              ⟨reply, none, any.unfiltered, []⟩ := by
        rw [take]
        cases any.answer query <;> rfl
      rw [asked, asked, answer_unfiltered, unfiltered_unfiltered]

theorem take_of_unfiltered_eq {a b : State τ} (same : a.unfiltered = b.unfiltered)
    (step : Step ρ) :
    (a.take step).map (Outcome.unfiltered step) = (b.take step).map (Outcome.unfiltered step) := by
  calc
    (a.take step).map (Outcome.unfiltered step) =
        (a.unfiltered.take step).map (Outcome.unfiltered step) := (a.take_unfiltered step).symm
    _ = (b.unfiltered.take step).map (Outcome.unfiltered step) := by rw [same]
    _ = (b.take step).map (Outcome.unfiltered step) := b.take_unfiltered step

theorem take_cases_of_unfiltered_eq {a b : State τ} (same : a.unfiltered = b.unfiltered)
    (step : Step ρ) :
    (∃ failure, a.take step = .error failure ∧ b.take step = .error failure) ∨
      ∃ outcome other, a.take step = .ok outcome ∧ b.take step = .ok other ∧
        outcome.unfiltered step = other.unfiltered step := by
  have alike := take_of_unfiltered_eq same step
  cases first : a.take step with
  | error failure =>
      cases second : b.take step with
      | error reason =>
          rw [first, second] at alike
          cases alike
          exact .inl ⟨failure, rfl, rfl⟩
      | ok other =>
          rw [first, second] at alike
          cases alike
  | ok outcome =>
      cases second : b.take step with
      | error reason =>
          rw [first, second] at alike
          cases alike
      | ok other =>
          rw [first, second] at alike
          exact .inr ⟨outcome, other, rfl, rfl, Except.ok.inj alike⟩

theorem attemptAll_of_unfiltered_eq {a b : State τ} (same : a.unfiltered = b.unfiltered)
    (steps : List (Step ρ)) :
    List.zipWith Entry.unfiltered steps (Session.entries a steps) =
        List.zipWith Entry.unfiltered steps (Session.entries b steps) ∧
      (a.attemptAll steps).value.unfiltered = (b.attemptAll steps).value.unfiltered := by
  induction steps generalizing a b with
  | nil => exact ⟨rfl, same⟩
  | cons step rest ih =>
      rw [attemptAll_cons, attemptAll_cons, Logged.value_andThen, Logged.value_andThen, attempt,
        attempt, Session.entries, Session.entries]
      -- A step that fails in one of the runs fails in the other, and leaves both where they were.
      rcases take_cases_of_unfiltered_eq same step with
        ⟨failure, first, second⟩ | ⟨outcome, other, first, second, alike⟩
      · rw [first, second]
        obtain ⟨entries, last⟩ := ih same
        refine ⟨?_, last⟩
        rw [List.zipWith_cons_cons, List.zipWith_cons_cons, entries]
      · rw [first, second]
        rcases Outcome.mk.inj alike with ⟨reply, text, next, records⟩
        obtain ⟨entries, last⟩ := ih next
        have now : Entry.unfiltered step ⟨.ok (outcome.reply, outcome.text?), outcome.records⟩ =
            Entry.unfiltered step ⟨.ok (other.reply, other.text?), other.records⟩ := by
          calc
            _ = Entry.mk (.ok (step.hide outcome.reply, outcome.text?)) outcome.records := rfl
            _ = Entry.mk (.ok (step.hide other.reply, other.text?)) other.records := by
              rw [reply, text, records]
        refine ⟨?_, last⟩
        rw [List.zipWith_cons_cons, List.zipWith_cons_cons, now, entries]

end State

end Sessions

theorem Solution.answersFor_attemptAll {τ : Type} [Bindable τ]
    (made : List (Option (List ScopePath) × List (TypeVar × τ))) (changes : List (Change τ)) :
    let sets := made.map fun (scopes?, writes) => ((BindingSet.fresh scopes?).writeAll writes).value
    List.Forall₂ AnswersFor
      (changes.foldl (Change.carry none) (orBlank none (made.map Prod.fst)))
      ((ofSets sets).value.attemptAll changes).value.sets := by
  intro sets
  have answer : List.Forall₂ AnswersFor (made.map Prod.fst) sets := by
    rw [List.forall₂_map_left_iff, List.forall₂_map_right_iff, List.forall₂_same]
    intro entry _
    exact BindingSet.survives_answersFor.writeAll (BindingSet.answersFor_fresh entry.1) entry.2
  have start := BindingSet.survives_answersFor.ofSets answer
  exact BindingSet.survives_answersFor.attemptAll start changes

/-- A set answers for the scopes that it was made with, or for every scope, whatever is written into
it alone or in a solution, and a rebuild takes that over with the set. In a session filters change
no answer but those about them, and no text, record or failure, and lead to the same bindings. -/
theorem filters_are_inert {ρ τ : Type} [Recipe ρ τ] [Bindable τ] [DecidableEq τ] :
    (∀ (scopes? : Option (List ScopePath)) (writes : List (TypeVar × τ)),
      AnswersFor scopes? ((BindingSet.fresh scopes?).writeAll writes).value) ∧
    (∀ (made : List (Option (List ScopePath) × List (TypeVar × τ))) (changes : List (Change τ)),
      let sets := made.map fun (scopes?, writes) =>
        ((BindingSet.fresh scopes?).writeAll writes).value
      List.Forall₂ AnswersFor
        (changes.foldl (Change.carry none) (orBlank none (made.map Prod.fst)))
        ((Solution.ofSets sets).value.attemptAll changes).value.sets) ∧
    ∀ (a b : Solution τ) (steps : List (Step ρ)), a.unfiltered = b.unfiltered →
      List.zipWith Entry.unfiltered steps (Session.entries (.start a) steps) =
          List.zipWith Entry.unfiltered steps (Session.entries (.start b) steps) ∧
        ((State.start a).attemptAll steps).value.unfiltered =
          ((State.start b).attemptAll steps).value.unfiltered := by
  refine ⟨?_, Solution.answersFor_attemptAll, ?_⟩
  · intro scopes? writes
    exact BindingSet.survives_answersFor.writeAll (BindingSet.answersFor_fresh scopes?) writes
  · intro a b steps same
    apply State.attemptAll_of_unfiltered_eq
    exact congrArg State.start same

theorem filters_are_inert_branches :
    let t : VarRecipe := .declared "T" (.text "f") .type
    let a : Solution Int := (Solution.ofSets [.empty, .ofScopes [⟨["g"]⟩]]).value
    let b : Solution Int := (Solution.ofSets [.ofScopes [], .ofScopes [⟨["f"]⟩]]).value
    let steps : List (Step Int) :=
      [.write 1 t 1, .ask (.covers 1 (.text "f")), .ask (.text 2), .rebuild [1, 0], .writeAll t 2]
    a.unfiltered = b.unfiltered ∧
      ((State.start a).attemptAll steps).value.unfiltered =
        ((State.start b).attemptAll steps).value.unfiltered ∧
      (Session.entries (.start a) steps).map Entry.records =
        (Session.entries (.start b) steps).map Entry.records := by
  intro t a b steps
  have same : a.unfiltered = b.unfiltered := rfl
  obtain ⟨entries, last⟩ := filters_are_inert.2.2 a b steps same
  have records := congrArg (List.map Entry.records) entries
  exact ⟨same, last, records⟩

end BindingStore
