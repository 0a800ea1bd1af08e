import BindingStore.Proofs.Carried
import BindingStore.Proofs.Transcript

namespace BindingStore

namespace BindingSet

variable {τ : Type}

def ids (s : BindingSet τ) : List VarId := s.toList.map Prod.fst

theorem isEmpty_iff_ids (s : BindingSet τ) : s.isEmpty = true ↔ s.ids = [] := by
  simp [isEmpty, Bindings.isEmpty, ids, toList]

/-- A later set binds what the earlier one does. No id has gone, moved or come in twice. -/
structure GrownFrom (earlier later : BindingSet τ) : Prop where
  ids : earlier.ids <+: later.ids
  bound : ∀ id, (earlier.lookupId id).isSome → (later.lookupId id).isSome
  distinct : later.ids.Nodup

theorem GrownFrom.refl (s : BindingSet τ) : GrownFrom s s where
  ids := List.prefix_refl s.ids
  bound := fun _ found => found
  distinct := s.bindings.distinct

theorem GrownFrom.trans {a b c : BindingSet τ} (first : GrownFrom a b) (second : GrownFrom b c) :
    GrownFrom a c where
  ids := first.ids.trans second.ids
  bound := fun id found => second.bound id (first.bound id found)
  distinct := second.distinct

theorem GrownFrom.isEmpty {earlier later : BindingSet τ} (grown : GrownFrom earlier later)
    (empty : later.isEmpty = true) : earlier.isEmpty = true := by
  rw [isEmpty_iff_ids] at empty ⊢
  exact List.prefix_nil.mp (empty ▸ grown.ids)

variable [Bindable τ]

theorem grownFrom_write (s : BindingSet τ) (v : TypeVar) (type : τ) :
    GrownFrom s (s.write v type).value where
  ids := by
    rw [show (s.write v type).value.ids = _ from s.bindings.keys_insert v.id type]
    by_cases bound : v.id ∈ s.bindings.keys
    · rw [if_pos bound]
      exact List.prefix_refl s.ids
    · rw [if_neg bound]
      exact List.prefix_append s.ids [v.id]
  bound := by
    intro id found
    rw [lookupId_write]
    by_cases same : id = v.id
    · rw [if_pos same]
      rfl
    · rwa [if_neg same]
  distinct := (s.write v type).value.bindings.distinct

theorem grownFrom_writeAll (s : BindingSet τ) (writes : List (TypeVar × τ)) :
    GrownFrom s (s.writeAll writes).value := by
  induction writes generalizing s with
  | nil => exact .refl s
  | cons write rest ih =>
      rcases write with ⟨v, type⟩
      rw [value_writeAll_cons]
      exact (s.grownFrom_write v type).trans (ih _)

theorem isEmpty_write (s : BindingSet τ) (v : TypeVar) (type : τ) :
    (s.write v type).value.isEmpty = false := by
  rw [← Bool.not_eq_true]
  intro empty
  have found : (s.write v type).value.lookupId v.id = some type := by
    rw [lookupId_write, if_pos rfl]
  rw [lookupId, Bindings.get?_eq_some_iff, List.isEmpty_iff.mp empty] at found
  cases found

theorem isEmpty_writeAll_iff (s : BindingSet τ) (writes : List (TypeVar × τ)) :
    (s.writeAll writes).value.isEmpty = true ↔ s.isEmpty = true ∧ writes = [] := by
  cases writes with
  | nil => simp
  | cons write rest =>
      rcases write with ⟨v, type⟩
      have filled : (s.writeAll ((v, type) :: rest)).value.isEmpty ≠ true := by
        intro empty
        have first := (grownFrom_writeAll (s.write v type).value rest).isEmpty empty
        rw [isEmpty_write] at first
        cases first
      exact ⟨fun empty => absurd empty filled, fun none => nomatch none.2⟩

end BindingSet

open BindingSet (GrownFrom)

namespace Change

variable {τ : Type}

def Writes (size : Nat) : Change τ → Prop
  | broadcast .. => True
  | write index .. => index < size
  | rebuild _ => False

theorem writes_iff {size : Nat} (some : 0 < size) (change : Change τ) :
    change.Writes size ↔ ∃ index < size, change.writeInto? index ≠ none := by
  cases change with
  | broadcast v type => simpa [Writes, writeInto?] using ⟨0, some⟩
  | write target v type => simp [Writes, writeInto?]
  | rebuild kept => simp [Writes, writeInto?]

theorem received_eq_nil_iff (index : Nat) (changes : List (Change τ)) :
    received index changes = [] ↔ ∀ change ∈ changes, change.writeInto? index = none :=
  List.filterMap_eq_nil_iff

end Change

open Change (received)

namespace Solution

variable {τ : Type}

theorem isEmpty_iff (s : Solution τ) :
    s.isEmpty = true ↔ ∀ (index : Nat) (set : BindingSet τ), s.sets[index]? = some set →
      set.isEmpty = true := by
  rw [isEmpty, List.all_eq_true]
  constructor
  · intro empty index set found
    exact empty set (List.mem_of_getElem? found)
  · intro empty set member
    rcases List.getElem?_of_mem member with ⟨index, found⟩
    exact empty index set found

variable [Bindable τ]

theorem value_attemptAll_append (s : Solution τ) (front back : List (Change τ)) :
    (s.attemptAll (front ++ back)).value = ((s.attemptAll front).value.attemptAll back).value := by
  induction front generalizing s with
  | nil => rfl
  | cons change rest ih =>
      rw [List.cons_append, attemptAll_cons, attemptAll_cons, Logged.value_andThen,
        Logged.value_andThen, ih]

/-- Where rebuilds keep the sets, each of them ends as the writes that reached it leave it. -/
theorem getElem?_attemptAll {s : Solution τ} {changes : List (Change τ)}
    (keep : ∀ change ∈ changes, change.KeepsSets s.size) (index : Nat) :
    (s.attemptAll changes).value.sets[index]? =
      s.sets[index]?.map fun set => (set.writeAll (received index changes)).value := by
  have tracked : s.sets = (s.sets.map Lineage.given).map Lineage.set := by
    rw [List.map_map]
    exact (List.map_id s.sets).symm
  cases found : s.sets[index]? with
  | none =>
      have beyond : (s.attemptAll changes).value.size ≤ index := by
        rw [size_attemptAll keep]
        exact List.getElem?_eq_none_iff.mp found
      rw [List.getElem?_eq_none beyond, Option.map_none]
  | some set =>
      have given : (s.sets.map Lineage.given)[index]? = some (.given set) := by
        rw [List.getElem?_map, found, Option.map_some]
      have size : (s.sets.map Lineage.given).length = s.size := List.length_map _
      rw [(attemptAll_lineages tracked changes).1, List.getElem?_map,
        (Lineage.tally (size ▸ keep) given).1]
      rfl

theorem grown_attemptAll {s : Solution τ} {changes : List (Change τ)}
    (keep : ∀ change ∈ changes, change.KeepsSets s.size) :
    List.Forall₂ GrownFrom s.sets (s.attemptAll changes).value.sets := by
  have ends : (s.attemptAll changes).value.sets =
      s.sets.mapIdx fun index set => (set.writeAll (received index changes)).value := by
    apply List.ext_getElem?
    intro index
    rw [getElem?_attemptAll keep, List.getElem?_mapIdx]
  rw [ends]
  apply forall₂_mapIdx _ (List.forall₂_same.mpr fun set _ => .refl set)
  intro index set other grown
  exact grown.trans (other.grownFrom_writeAll _)

theorem isEmpty_attemptAll_iff {s : Solution τ} {changes : List (Change τ)}
    (keep : ∀ change ∈ changes, change.KeepsSets s.size) :
    (s.attemptAll changes).value.isEmpty = true ↔
      s.isEmpty = true ∧ ∀ change ∈ changes, ¬ change.Writes s.size := by
  have each : (s.attemptAll changes).value.isEmpty = true ↔ ∀ (index : Nat) (set : BindingSet τ),
      s.sets[index]? = some set → set.isEmpty = true ∧ received index changes = [] := by
    simp [isEmpty_iff, getElem?_attemptAll keep, BindingSet.isEmpty_writeAll_iff]
  rw [each, isEmpty_iff]
  constructor
  · intro empty
    refine ⟨fun index set found => (empty index set found).1, ?_⟩
    intro change member writes
    rcases (Change.writes_iff s.size_pos change).mp writes with ⟨index, inside, reached⟩
    have none := (empty index _ (List.getElem?_eq_getElem inside)).2
    exact reached ((Change.received_eq_nil_iff index changes).mp none change member)
  · intro parts index set found
    obtain ⟨empty, idle⟩ := parts
    refine ⟨empty index set found, (Change.received_eq_nil_iff index changes).mpr ?_⟩
    intro change member
    have inside : index < s.size := (List.getElem?_eq_some_iff.mp found).1
    by_contra reached
    exact idle change member ((Change.writes_iff s.size_pos change).mpr ⟨index, inside, reached⟩)

theorem filled_of_broadcast {s : Solution τ} {changes : List (Change τ)}
    (keep : ∀ change ∈ changes, change.KeepsSets s.size) {v : TypeVar} {type : τ}
    (broadcast : .broadcast v type ∈ changes) :
    ∀ set ∈ (s.attemptAll changes).value.sets, set.isEmpty = false := by
  intro set member
  rcases List.getElem?_of_mem member with ⟨index, found⟩
  rw [getElem?_attemptAll keep] at found
  rcases Option.map_eq_some_iff.mp found with ⟨first, -, rfl⟩
  rw [← Bool.not_eq_true, BindingSet.isEmpty_writeAll_iff, Change.received_eq_nil_iff]
  intro parts
  cases parts.2 _ broadcast

end Solution

namespace State

variable {ρ τ : Type} [Recipe ρ τ] [Bindable τ] [DecidableEq τ]

theorem solution_attemptAll_of_keepsSets {size : Nat} {steps : List (Step ρ)}
    (keep : ∀ step ∈ steps, step.KeepsSets size) (state : State τ) :
    (state.attemptAll steps).value.solution =
      (state.solution.attemptAll (steps.filterMap Step.change?)).value := by
  have forward : ∀ step ∈ steps, step ≠ .restore := fun step member => (keep step member).ne_restore
  exact congrArg Logged.value (solution_attemptAll forward state)

/-- Between any two points of a session that keeps its sets, each set has grown. A solution is empty
as long as it was given empty and nothing is written into it, and no set is empty once a type has
been written into all of them. -/
theorem bindings_only_grow {count : Nat} {start : Solution τ} (built : Solution.Built count start)
    (front back : List (Step ρ)) (keep : ∀ step ∈ front ++ back, step.KeepsSets (max 1 count)) :
    let earlier := ((State.start start).attemptAll front).value
    let later := (earlier.attemptAll back).value
    let changes : List (Change τ) := (front ++ back).filterMap Step.change?
    List.Forall₂ GrownFrom earlier.solution.sets later.solution.sets ∧
      (later.solution.isEmpty = true ↔
        (∀ set ∈ start.sets, set.isEmpty = true) ∧ ∀ change ∈ changes, ¬ change.Writes start.size) ∧
      (earlier.solution.isEmpty = false → later.solution.isEmpty = false) ∧
      ∀ v type, .broadcast v type ∈ changes → ∀ set ∈ later.solution.sets, set.isEmpty = false := by
  intro earlier later changes
  rw [← built.size] at keep
  obtain ⟨keepFront, keepBack⟩ := List.forall_mem_append.mp keep
  have first := solution_attemptAll_of_keepsSets keepFront (State.start start)
  have second := solution_attemptAll_of_keepsSets keepBack earlier
  have whole : later.solution = (start.attemptAll changes).value := by
    rw [second, first, show changes = _ from List.filterMap_append,
      Solution.value_attemptAll_append]
    rfl
  have size : earlier.solution.size = start.size := by
    rw [first]
    exact Solution.size_attemptAll (Step.keepsSets_changes keepFront)
  have keptLater : ∀ change ∈ (back.filterMap Step.change? : List (Change τ)),
      change.KeepsSets earlier.solution.size := by
    rw [size]
    exact Step.keepsSets_changes keepBack
  have keptAll : ∀ change ∈ changes, change.KeepsSets start.size := Step.keepsSets_changes keep
  refine ⟨?_, ?_, ?_, ?_⟩
  · rw [second]
    exact Solution.grown_attemptAll keptLater
  · rw [whole, Solution.isEmpty_attemptAll_iff keptAll, Solution.isEmpty, List.all_eq_true]
  · rw [← Bool.not_eq_true, ← Bool.not_eq_true, second, Solution.isEmpty_attemptAll_iff keptLater]
    exact fun filled empty => filled empty.1
  · intro v type broadcast
    rw [whole]
    exact Solution.filled_of_broadcast keptAll broadcast

theorem bindings_only_grow_branches :
    let t : VarRecipe := .declared "T" (.text "f") .type
    let u : VarRecipe := .declared "U" (.text "f") .paramSpec
    let sets : List (BindingSet Int) := [.empty, .ofScopes [⟨["f"]⟩]]
    let front : List (Step Int) := [.write 2 t 5, .ask .isEmpty, .write 1 t 1, .rebuild [0, 1]]
    let back : List (Step Int) := [.ask (.text 2), .writeAll u 2, .writeAll t 3]
    let earlier := ((State.start (Solution.ofSets sets).value).attemptAll front).value
    let later := (earlier.attemptAll back).value
    Solution.Built 2 (Solution.ofSets sets).value ∧
      (∀ step ∈ front ++ back, step.KeepsSets (max 1 2)) ∧
      earlier.solution.sets.map BindingSet.ids = [[], [⟨"T", ⟨["f"]⟩⟩]] ∧
      earlier.solution.isEmpty = false ∧
      List.Forall₂ GrownFrom earlier.solution.sets later.solution.sets ∧
      later.solution.isEmpty = false ∧ ∀ set ∈ later.solution.sets, set.isEmpty = false := by
  intro t u sets front back earlier later
  have built : Solution.Built 2 (Solution.ofSets sets).value := .ofSets sets
  have keep : ∀ step ∈ front ++ back, step.KeepsSets (max 1 2) := by
    simp [front, back, Step.KeepsSets, List.range_succ]
  have filled : earlier.solution.isEmpty = false := by decide
  rcases bindings_only_grow built front back keep with ⟨grown, -, stays, broadcast⟩
  refine ⟨built, keep, by decide, filled, grown, stays filled, ?_⟩
  exact broadcast ⟨⟨"U", ⟨["f"]⟩⟩, .paramSpec⟩ 2 (by decide)

end State

end BindingStore
