import BindingStore.Proofs.Broadcast
import Mathlib.Data.List.Forall2

/-! What a run carries over. Where a relation between a value and a set survives the writes into the
set, it holds of the values that were given with the sets of a solution at the end of every run as
well: a rebuild takes over the value along with the set. -/

namespace BindingStore

theorem rel_getElem? {α β : Type} {R : α → β → Prop} {values : List α} {others : List β}
    (related : List.Forall₂ R values others) (index : Nat) :
    Option.Rel R values[index]? others[index]? := by
  induction related generalizing index with
  | nil => exact .none
  | cons first _ ih =>
      cases index with
      | zero => exact .some first
      | succ index => exact ih index

theorem forall₂_mapIdx {α β : Type} {R : α → β → Prop} {f : Nat → β → β} {values : List α}
    {others : List β} (kept : ∀ index value other, R value other → R value (f index other))
    (related : List.Forall₂ R values others) : List.Forall₂ R values (others.mapIdx f) := by
  induction related generalizing f with
  | nil => exact .nil
  | cons first _ ih =>
      rw [List.mapIdx_cons]
      refine .cons (kept 0 _ _ first) (ih ?_)
      intro index
      exact kept (index + 1)

def orBlank {α : Type} (blank : α) : List α → List α
  | [] => [blank]
  | value :: rest => value :: rest

/-- The values that stand beside the sets of a solution after a change, those of a rebuild with the
sets that it takes over. -/
def Change.carry {α τ : Type} (blank : α) (values : List α) : Change τ → List α
  | broadcast .. => values
  | write .. => values
  | rebuild kept => orBlank blank (kept.filterMap fun index => values[index]?)

theorem Change.carry_of_isWrite {α τ : Type} {change : Change τ} (write : change.IsWrite)
    (blank : α) (values : List α) : change.carry blank values = values := by
  cases change with
  | broadcast v type | write index v type => rfl
  | rebuild kept => exact write.elim

variable {α τ : Type} [Bindable τ]

structure Survives (R : α → BindingSet τ → Prop) (blank : α) : Prop where
  empty : R blank .empty
  write : ∀ {value : α} {set : BindingSet τ}, R value set → ∀ v type,
    R value (set.write v type).value

namespace Survives

variable {R : α → BindingSet τ → Prop} {blank : α}

theorem writeAll (survives : Survives R blank) {value : α} {set : BindingSet τ}
    (holds : R value set) (writes : List (TypeVar × τ)) : R value (set.writeAll writes).value := by
  induction writes generalizing set with
  | nil => exact holds
  | cons write rest ih =>
      rcases write with ⟨v, type⟩
      rw [BindingSet.value_writeAll_cons]
      exact ih (survives.write holds v type)

theorem ofSets (survives : Survives R blank) {values : List α} {sets : List (BindingSet τ)}
    (related : List.Forall₂ R values sets) :
    List.Forall₂ R (orBlank blank values) (Solution.ofSets sets).value.sets := by
  cases related with
  | nil => exact .cons survives.empty .nil
  | cons first rest => exact .cons first rest

theorem attempt (survives : Survives R blank) {values : List α} {s : Solution τ}
    (related : List.Forall₂ R values s.sets) (change : Change τ) :
    List.Forall₂ R (change.carry blank values) (s.attempt change).value.sets := by
  rcases change.isWrite_or_rebuild with write | ⟨kept, rfl⟩
  · rw [Change.carry_of_isWrite write, Solution.sets_attempt write]
    apply forall₂_mapIdx _ related
    intro index value set holds
    exact survives.writeAll holds _
  · apply survives.ofSets
    have sameIndices : List.Forall₂ Eq kept kept := List.forall₂_refl kept
    refine List.rel_filterMap ?_ sameIndices
    intro index _ same
    subst same
    exact rel_getElem? related index

theorem attemptAll (survives : Survives R blank) {values : List α} {s : Solution τ}
    (related : List.Forall₂ R values s.sets) (changes : List (Change τ)) :
    List.Forall₂ R (changes.foldl (Change.carry blank) values)
      (s.attemptAll changes).value.sets := by
  induction changes generalizing values s with
  | nil => exact related
  | cons change rest ih => exact ih (survives.attempt related change)

end Survives

end BindingStore
