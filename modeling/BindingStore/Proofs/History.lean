import BindingStore.BindingSet
import Mathlib.Data.Finset.Card

/-! Binding sets and the history of their writes. A set binds an id to the type of the last write
under it and keeps the id at the place of the first, whatever the kinds of the variables. -/

namespace BindingStore

theorem eraseDups_of_nodup {α : Type} [DecidableEq α] {values : List α} (distinct : values.Nodup) :
    values.eraseDups = values := by
  induction values with
  | nil => rfl
  | cons head tail ih =>
      rcases List.nodup_cons.mp distinct with ⟨fresh, rest⟩
      have kept : (tail.filter fun value => !value == head) = tail := by
        apply List.filter_eq_self.mpr
        intro value member
        have apart : value ≠ head := fun same => fresh (same ▸ member)
        simpa using apart
      rw [List.eraseDups_cons, kept, ih rest]

theorem eraseDups_append_cons_of_mem {α : Type} [DecidableEq α] {front : List α} {value : α}
    (back : List α) (member : value ∈ front) :
    (front ++ value :: back).eraseDups = (front ++ back).eraseDups := by
  rw [List.eraseDups_append, List.eraseDups_append]
  have dropped : (value :: back).removeAll front = back.removeAll front := by
    simp [List.removeAll, member]
  rw [dropped]

theorem foldl_collects {α : Type} (values seen : List α) :
    values.foldl (fun seen value => seen ++ [value]) seen = seen ++ values := by
  rw [List.foldl_append_eq_append, ← List.flatMap_def, List.flatMap_singleton']

namespace History

variable {τ : Type}

def writtenIds (writes : List (TypeVar × τ)) : List VarId := writes.map fun write => write.1.id

/-- The type of the last write through a variable with the name and the scope of an id. -/
def lastType (id : VarId) (writes : List (TypeVar × τ)) : Option τ :=
  (writes.reverse.find? fun write =>
    write.1.id.name = id.name ∧ write.1.id.scope = id.scope).map Prod.snd

theorem lastType_cons (id : VarId) (v : TypeVar) (type : τ) (rest : List (TypeVar × τ)) :
    lastType id ((v, type) :: rest) =
      (lastType id rest).or (if id = v.id then some type else none) := by
  have named : (v.id.name = id.name ∧ v.id.scope = id.scope) ↔ id = v.id := by
    constructor
    · intro ⟨names, scopes⟩
      cases id
      cases found : v.id
      simp_all
    · intro same
      simp [same]
  rw [lastType, List.reverse_cons, List.find?_append, Option.map_or]
  by_cases same : id = v.id
  · simp [lastType, same]
  · simp [lastType, named, same]

theorem lastType_eq_none_iff (id : VarId) (writes : List (TypeVar × τ)) :
    lastType id writes = none ↔ id ∉ writtenIds writes := by
  induction writes with
  | nil => simp [lastType, writtenIds]
  | cons write rest ih =>
      rcases write with ⟨v, type⟩
      rw [lastType_cons, Option.or_eq_none_iff, ih]
      by_cases same : id = v.id <;> simp [writtenIds, same]

end History

open History

namespace BindingSet

variable {τ : Type}

@[simp]
theorem lookupId_fresh (scopes? : Option (List ScopePath)) (id : VarId) :
    (fresh scopes? : BindingSet τ).lookupId id = none := by
  cases scopes? <;> rfl

@[simp]
theorem keys_fresh (scopes? : Option (List ScopePath)) :
    (fresh scopes? : BindingSet τ).bindings.keys = [] := by
  cases scopes? <;> rfl

theorem forEach_collects (s : BindingSet τ) (seen : List (VarId × τ)) :
    s.forEach (fun seen type id => seen ++ [(id, type)]) seen = seen ++ s.toList :=
  foldl_collects s.toList seen

variable [Bindable τ]

theorem lookupId_write (s : BindingSet τ) (v : TypeVar) (type : τ) (id : VarId) :
    (s.write v type).value.lookupId id = if id = v.id then some type else s.lookupId id :=
  Bindings.get?_insert s.bindings v.id type id

theorem lookupId_writeAll (s : BindingSet τ) (writes : List (TypeVar × τ)) (id : VarId) :
    (s.writeAll writes).value.lookupId id = (lastType id writes).or (s.lookupId id) := by
  induction writes generalizing s with
  | nil => simp [lastType]
  | cons write rest ih =>
      rcases write with ⟨v, type⟩
      rw [value_writeAll_cons, ih, lookupId_write, lastType_cons, Option.or_assoc]
      by_cases same : id = v.id <;> simp [same]

theorem keys_writeAll (s : BindingSet τ) (writes : List (TypeVar × τ)) :
    (s.writeAll writes).value.bindings.keys = (s.bindings.keys ++ writtenIds writes).eraseDups := by
  induction writes generalizing s with
  | nil =>
      have distinct : s.bindings.keys.eraseDups = s.bindings.keys :=
        eraseDups_of_nodup s.bindings.distinct
      simpa [writtenIds] using distinct.symm
  | cons write rest ih =>
      rcases write with ⟨v, type⟩
      rw [value_writeAll_cons, ih, bindings_write, Bindings.keys_insert]
      by_cases bound : v.id ∈ s.bindings.keys
      · rw [if_pos bound]
        exact (eraseDups_append_cons_of_mem (writtenIds rest) bound).symm
      · rw [if_neg bound, List.append_assoc]
        rfl

theorem filter?_writeAll (s : BindingSet τ) (writes : List (TypeVar × τ)) :
    (s.writeAll writes).value.filter? = s.filter? := by
  induction writes generalizing s with
  | nil => rfl
  | cons write rest ih => rw [value_writeAll_cons, ih, filter?_write]

end BindingSet

namespace History

variable {τ : Type}

structure Reflects (s : BindingSet τ) (writes : List (TypeVar × τ)) : Prop where
  lookup : ∀ v, s.lookup v = lastType v.id writes
  lookupId : ∀ id, s.lookupId id = lastType id writes
  unbound : ∀ id, s.lookupId id = none ↔ ∀ write ∈ writes, write.1.id ≠ id
  /-- Ids stand in the order of their first writes. -/
  ids : s.toList.map Prod.fst = (writtenIds writes).eraseDups
  distinct : (s.toList.map Prod.fst).Nodup
  types : ∀ entry ∈ s.toList, lastType entry.1 writes = some entry.2
  visited : s.forEach (fun seen type id => seen ++ [(id, type)]) [] = s.toList
  size : s.size = (writtenIds writes).toFinset.card
  isEmpty : s.isEmpty = true ↔ writes = []

theorem writeAll_fresh_reflects [Bindable τ] (scopes? : Option (List ScopePath))
    (writes : List (TypeVar × τ)) :
    Reflects ((BindingSet.fresh scopes?).writeAll writes).value writes := by
  have last (id : VarId) :
      ((BindingSet.fresh scopes?).writeAll writes).value.lookupId id = lastType id writes := by
    rw [BindingSet.lookupId_writeAll, BindingSet.lookupId_fresh, Option.or_none]
  have first : ((BindingSet.fresh scopes?).writeAll writes).value.bindings.keys =
      (writtenIds writes).eraseDups := by
    rw [BindingSet.keys_writeAll, BindingSet.keys_fresh, List.nil_append]
  generalize ((BindingSet.fresh scopes?).writeAll writes).value = s at last first
  have distinct : (s.toList.map Prod.fst).Nodup := s.bindings.distinct
  have sameIds : (s.toList.map Prod.fst).toFinset = (writtenIds writes).toFinset := by
    ext id
    rw [show s.toList.map Prod.fst = _ from first]
    simp
  constructor
  case lookup => exact fun v => last v.id
  case lookupId => exact last
  case unbound =>
    intro id
    rw [last, lastType_eq_none_iff]
    simp [writtenIds]
  case ids => exact first
  case distinct => exact distinct
  case types =>
    intro entry member
    rw [← last]
    exact Bindings.get?_eq_some_iff.mpr member
  case visited => exact s.forEach_collects []
  case size =>
    rw [← sameIds, List.toFinset_card_of_nodup distinct, List.length_map]
    rfl
  case isEmpty =>
    have none : s.toList.map Prod.fst = [] ↔ writtenIds writes = [] := by
      rw [← List.toFinset_eq_empty_iff, sameIds, List.toFinset_eq_empty_iff]
    simpa [BindingSet.isEmpty, Bindings.isEmpty, BindingSet.toList, writtenIds] using none

end History

end BindingStore
