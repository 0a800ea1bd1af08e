import BindingStore.Proofs.History
import BindingStore.Solution
import BindingStore.TypeTerm
import Mathlib.Data.List.Forall2

namespace BindingStore

theorem beq_iff_forall₂ {α : Type} [BEq α] (values others : List α) :
    (values == others) = true ↔
      List.Forall₂ (fun value other => (value == other) = true) values others := by
  induction values generalizing others with
  | nil => cases others <;> simp
  | cons value rest ih => cases others <;> simp [ih]

theorem Ascending.nodup {α : Type} [Ord α] [Std.TransOrd α] {values : List α}
    (sorted : Ascending values) : values.Nodup := by
  refine List.Pairwise.imp ?_ sorted
  rintro a _ before rfl
  rw [Std.ReflOrd.compare_self] at before
  cases before

theorem Ascending.eq_of_mem_iff {α : Type} [Ord α] [Std.TransOrd α] {a b : List α}
    (first : Ascending a) (second : Ascending b) (same : ∀ x, x ∈ a ↔ x ∈ b) : a = b := by
  have permuted : a.Perm b := (List.perm_ext_iff_of_nodup first.nodup second.nodup).mpr same
  refine List.Perm.eq_of_pairwise ?_ first second permuted
  intro x y _ _ before after
  rw [Std.OrientedCmp.gt_of_lt before] at after
  cases after

theorem ScopeFilter.eq_iff (f g : ScopeFilter) :
    f = g ↔ ∀ scope, scope ∈ f.scopes ↔ scope ∈ g.scopes := by
  constructor
  · rintro rfl scope
    rfl
  · intro same
    have scopes := f.sorted.eq_of_mem_iff g.sorted same
    cases f
    cases g
    cases scopes
    rfl

namespace Bindings

variable {κ τ : Type}

theorem nodup_entries (b : Bindings κ τ) : b.entries.Nodup := b.distinct.of_map Prod.fst

variable [DecidableEq κ]

theorem entries_perm_iff (a b : Bindings κ τ) :
    a.entries.Perm b.entries ↔ ∀ key, a.get? key = b.get? key := by
  rw [List.perm_ext_iff_of_nodup a.nodup_entries b.nodup_entries]
  constructor
  · intro same key
    ext value
    rw [get?_eq_some_iff, get?_eq_some_iff]
    exact same (key, value)
  · rintro same ⟨key, value⟩
    rw [← get?_eq_some_iff, ← get?_eq_some_iff, same]

/-- Where the sizes are the same, finding every entry of the one in the other is enough. -/
theorem agrees_iff [DecidableEq τ] (a b : Bindings κ τ) :
    a.agrees b = true ↔ ∀ key, a.get? key = b.get? key := by
  rw [← entries_perm_iff, agrees, Bool.and_eq_true, decide_eq_true_iff, List.all_eq_true]
  simp only [decide_eq_true_iff, get?_eq_some_iff]
  constructor
  · rintro ⟨sizes, found⟩
    exact (List.subperm_of_subset a.nodup_entries found).perm_of_length_le (Nat.le_of_eq sizes.symm)
  · intro permuted
    exact ⟨permuted.length_eq, fun entry member => permuted.mem_iff.mp member⟩

end Bindings

namespace BindingSet

variable {τ : Type}

def SameScopes (a b : BindingSet τ) : Prop :=
  match a.scopes?, b.scopes? with
  | none, none => True
  | some scopes, some others => ∀ scope, scope ∈ scopes ↔ scope ∈ others
  | _, _ => False

theorem sameScopes_iff (a b : BindingSet τ) : a.SameScopes b ↔ a.filter? = b.filter? := by
  cases first : a.filter? with
  | none => cases second : b.filter? <;> simp [SameScopes, scopes?, first, second]
  | some f =>
      cases second : b.filter? with
      | none => simp [SameScopes, scopes?, first, second]
      | some g => simp [SameScopes, scopes?, first, second, ScopeFilter.eq_iff]

/-- The answers about the two are the same, but for those that list the bindings in their order. -/
structure SameAnswers [Bindable τ] (a b : BindingSet τ) : Prop where
  lookup : ∀ v, a.lookup v = b.lookup v
  lookupId : ∀ id, a.lookupId id = b.lookupId id
  lookupSignature : ∀ v, a.lookupSignature v = b.lookupSignature v
  size : a.size = b.size
  isEmpty : a.isEmpty = b.isEmpty
  scopes? : a.scopes? = b.scopes?
  covers : ∀ scope, a.covers scope = b.covers scope

variable [DecidableEq τ]

theorem beq_iff (a b : BindingSet τ) :
    (a == b) = true ↔ a.SameScopes b ∧ ∀ id, a.lookupId id = b.lookupId id := by
  have unfolded : (a == b) = (a.bindings.agrees b.bindings && decide (a.filter? = b.filter?)) := rfl
  rw [unfolded, Bool.and_eq_true, decide_eq_true_iff, Bindings.agrees_iff, sameScopes_iff, and_comm]
  rfl

theorem beq_self (s : BindingSet τ) : (s == s) = true := by
  rw [beq_iff, sameScopes_iff]
  exact ⟨rfl, fun _ => rfl⟩

theorem beq_write [Bindable τ] {a b : BindingSet τ} (equal : (a == b) = true) (v : TypeVar)
    (type : τ) : ((a.write v type).value == (b.write v type).value) = true := by
  rw [beq_iff, sameScopes_iff] at equal ⊢
  rcases equal with ⟨filters, lookups⟩
  refine ⟨filters, fun id => ?_⟩
  rw [lookupId_write, lookupId_write, lookups]

theorem sameAnswers_of_beq [Bindable τ] {a b : BindingSet τ} (equal : (a == b) = true) :
    a.SameAnswers b := by
  rw [beq_iff, sameScopes_iff] at equal
  obtain ⟨filters, lookups⟩ := equal
  have permuted : a.bindings.entries.Perm b.bindings.entries :=
    (Bindings.entries_perm_iff a.bindings b.bindings).mpr lookups
  have lookup : ∀ v, a.lookup v = b.lookup v := fun v => lookups v.id
  constructor
  case lookup => exact lookup
  case lookupId => exact lookups
  case lookupSignature =>
    intro v
    rw [lookupSignature, lookupSignature, lookup]
  case size => exact permuted.length_eq
  case isEmpty => exact permuted.isEmpty_eq
  case scopes? => rw [scopes?, scopes?, filters]
  case covers =>
    intro scope
    rw [covers, covers, filters]

end BindingSet

namespace Solution

variable {τ : Type}

structure SameAnswers [Bindable τ] (a b : Solution τ) : Prop where
  sets : List.Forall₂ BindingSet.SameAnswers a.sets b.sets
  size : a.size = b.size
  isEmpty : a.isEmpty = b.isEmpty

theorem all_isEmpty_of_sameAnswers [Bindable τ] {sets others : List (BindingSet τ)}
    (same : List.Forall₂ BindingSet.SameAnswers sets others) :
    sets.all BindingSet.isEmpty = others.all BindingSet.isEmpty := by
  induction same with
  | nil => rfl
  | cons first _ ih => rw [List.all_cons, List.all_cons, first.isEmpty, ih]

variable [DecidableEq τ]

theorem beq_iff (a b : Solution τ) :
    (a == b) = true ↔ a.size = b.size ∧ ∀ (index : Nat) (set other : BindingSet τ),
      a.sets[index]? = some set → b.sets[index]? = some other → (set == other) = true := by
  have unfolded : (a == b) = (a.sets == b.sets) := rfl
  rw [unfolded, beq_iff_forall₂, List.forall₂_iff_get, size, size]
  apply and_congr_right
  intro _
  constructor
  · intro pairwise index set other found opposite
    obtain ⟨inside, rfl⟩ := List.getElem?_eq_some_iff.mp found
    obtain ⟨within, rfl⟩ := List.getElem?_eq_some_iff.mp opposite
    exact pairwise index inside within
  · intro pairwise index inside within
    exact pairwise index _ _ (List.getElem?_eq_getElem inside) (List.getElem?_eq_getElem within)

theorem beq_self (s : Solution τ) : (s == s) = true := by
  rw [beq_iff]
  refine ⟨rfl, fun index set other found again => ?_⟩
  cases found.symm.trans again
  exact set.beq_self

theorem beq_broadcast [Bindable τ] {a b : Solution τ} (equal : (a == b) = true) (v : TypeVar)
    (type : τ) : ((a.broadcast v type).value == (b.broadcast v type).value) = true := by
  have pairwise := (beq_iff_forall₂ a.sets b.sets).mp equal
  apply (beq_iff_forall₂ _ _).mpr
  rw [sets_broadcast, sets_broadcast, List.forall₂_map_left_iff, List.forall₂_map_right_iff]
  exact pairwise.imp fun _ _ same => BindingSet.beq_write same v type

theorem sameAnswers_of_beq [Bindable τ] {a b : Solution τ} (equal : (a == b) = true) :
    a.SameAnswers b := by
  have alike : List.Forall₂ BindingSet.SameAnswers a.sets b.sets :=
    ((beq_iff_forall₂ a.sets b.sets).mp equal).imp fun _ _ => BindingSet.sameAnswers_of_beq
  constructor
  case sets => exact alike
  case size => exact alike.length_eq
  case isEmpty => exact all_isEmpty_of_sameAnswers alike

end Solution

namespace History

variable {τ : Type}

def writesTo (id : VarId) (writes : List (TypeVar × τ)) : List (TypeVar × τ) :=
  writes.filter fun write => write.1.id = id

/-- The same writes in another order that leaves the writes to each id in theirs. -/
def Rearranged (writes others : List (TypeVar × τ)) : Prop :=
  writes.Perm others ∧ ∀ id, writesTo id writes = writesTo id others

theorem lastType_writesTo (id : VarId) (writes : List (TypeVar × τ)) :
    lastType id (writesTo id writes) = lastType id writes := by
  induction writes with
  | nil => rfl
  | cons write rest ih =>
      rcases write with ⟨v, type⟩
      rw [lastType_cons, ← ih]
      by_cases same : v.id = id
      · have kept : writesTo id ((v, type) :: rest) = (v, type) :: writesTo id rest := by
          simp [writesTo, same]
        rw [kept, lastType_cons]
      · have dropped : writesTo id ((v, type) :: rest) = writesTo id rest := by
          simp [writesTo, same]
        rw [dropped, if_neg (Ne.symm same), Option.or_none]

theorem rearranged_swap {v w : TypeVar} (apart : v.id ≠ w.id) (a b : τ)
    (rest : List (TypeVar × τ)) :
    Rearranged ((v, a) :: (w, b) :: rest) ((w, b) :: (v, a) :: rest) := by
  refine ⟨.swap _ _ _, fun id => ?_⟩
  by_cases first : v.id = id
  · subst first
    simp [writesTo, apart.symm]
  · simp [writesTo, List.filter_cons, first]

theorem Rearranged.lastType_eq {writes others : List (TypeVar × τ)}
    (rearranged : Rearranged writes others) (id : VarId) : lastType id writes = lastType id others := by
  rw [← lastType_writesTo, rearranged.2, lastType_writesTo]

variable [Bindable τ]

/-- Equal sets can differ in their order, and the order shows. -/
theorem exists_rearranged_apart (scopes? : Option (List ScopePath)) (type : τ) :
    ∃ writes others : List (TypeVar × τ), Rearranged writes others ∧
      ((BindingSet.fresh scopes?).writeAll writes).value.toList ≠
        ((BindingSet.fresh scopes?).writeAll others).value.toList ∧
      ((BindingSet.fresh scopes?).writeAll writes).value.shown ≠
        ((BindingSet.fresh scopes?).writeAll others).value.shown := by
  let t : TypeVar := ⟨⟨"T", .root⟩, .type⟩
  let u : TypeVar := ⟨⟨"U", .root⟩, .type⟩
  have forward : ((BindingSet.fresh scopes?).writeAll [(t, type), (u, type)]).value.toList =
      [(t.id, type), (u.id, type)] := by
    cases scopes? <;> rfl
  have backward : ((BindingSet.fresh scopes?).writeAll [(u, type), (t, type)]).value.toList =
      [(u.id, type), (t.id, type)] := by
    cases scopes? <;> rfl
  have apart : t.id ≠ u.id := by decide
  refine ⟨[(t, type), (u, type)], [(u, type), (t, type)], rearranged_swap apart type type [], ?_, ?_⟩
  · rw [forward, backward]
    simp [t, u]
  · have tText : Text.quoted t.id.text = "\"T\"" := by decide
    have uText : Text.quoted u.id.text = "\"U\"" := by decide
    rw [BindingSet.shown, BindingSet.shown, BindingSet.display, BindingSet.display, forward, backward]
    intro same
    have letters := congrArg String.toList same
    simp [Text.Layout.table, Text.bracketLine, Text.fields, Text.field, tText, uText] at letters

variable [DecidableEq τ]

theorem beq_writeAll_fresh_iff {scopes? others? : Option (List ScopePath)}
    (filters : (BindingSet.fresh scopes? : BindingSet τ).SameScopes (.fresh others?))
    (writes others : List (TypeVar × τ)) :
    (((BindingSet.fresh scopes?).writeAll writes).value ==
        ((BindingSet.fresh others?).writeAll others).value) = true ↔
      ∀ id, lastType id writes = lastType id others := by
  rw [BindingSet.sameScopes_iff] at filters
  have kept : ((BindingSet.fresh scopes?).writeAll writes).value.SameScopes
      ((BindingSet.fresh others?).writeAll others).value := by
    rw [BindingSet.sameScopes_iff, BindingSet.filter?_writeAll, BindingSet.filter?_writeAll, filters]
  rw [BindingSet.beq_iff, and_iff_right kept]
  simp only [BindingSet.lookupId_writeAll, BindingSet.lookupId_fresh, Option.or_none]

end History

open History

/-- Binding sets are equal where neither a look-up nor a scope tells them apart, and solutions where
their sets are equal one by one. Of the histories of two sets only the last type of each id counts,
though the order shows in the sets, and no write or broadcast made to both tells them apart. -/
theorem equality_extensional {τ : Type} [DecidableEq τ] [Bindable τ] :
    (∀ a b : BindingSet τ,
      (a == b) = true ↔ a.SameScopes b ∧ ∀ id, a.lookupId id = b.lookupId id) ∧
    (∀ scopes? others? : Option (List ScopePath),
      (BindingSet.fresh scopes? : BindingSet τ).SameScopes (.fresh others?) →
        ∀ writes others : List (TypeVar × τ),
          ((((BindingSet.fresh scopes?).writeAll writes).value ==
              ((BindingSet.fresh others?).writeAll others).value) = true ↔
            ∀ id, lastType id writes = lastType id others) ∧
          (Rearranged writes others →
            (((BindingSet.fresh scopes?).writeAll writes).value ==
              ((BindingSet.fresh others?).writeAll others).value) = true)) ∧
    (∀ (scopes? : Option (List ScopePath)) (_ : τ), ∃ writes others : List (TypeVar × τ),
      Rearranged writes others ∧
        ((BindingSet.fresh scopes?).writeAll writes).value.toList ≠
          ((BindingSet.fresh scopes?).writeAll others).value.toList ∧
        ((BindingSet.fresh scopes?).writeAll writes).value.shown ≠
          ((BindingSet.fresh scopes?).writeAll others).value.shown) ∧
    (∀ (a b : BindingSet τ) (v : TypeVar) (type : τ), (a == b) = true →
      ((a.write v type).value == (b.write v type).value) = true) ∧
    (∀ a b : Solution τ,
      (a == b) = true ↔ a.size = b.size ∧ ∀ (index : Nat) (set other : BindingSet τ),
        a.sets[index]? = some set → b.sets[index]? = some other → (set == other) = true) ∧
    ∀ (a b : Solution τ) (v : TypeVar) (type : τ), (a == b) = true →
      ((a.broadcast v type).value == (b.broadcast v type).value) = true := by
  refine ⟨BindingSet.beq_iff, ?_, exists_rearranged_apart, ?_, Solution.beq_iff, ?_⟩
  · intro scopes? others? filters writes others
    have histories := beq_writeAll_fresh_iff filters writes others
    exact ⟨histories, fun rearranged => histories.mpr rearranged.lastType_eq⟩
  · intro a b v type equal
    exact BindingSet.beq_write equal v type
  · intro a b v type equal
    exact Solution.beq_broadcast equal v type

theorem equality_of_rearranged_writes :
    let t : TypeVar := ⟨⟨"T", ⟨["f"]⟩⟩, .type⟩
    let u : TypeVar := ⟨⟨"T", ⟨["g"]⟩⟩, .paramSpec⟩
    let scopes : List ScopePath := [⟨["f"]⟩, ⟨["g"]⟩]
    let others : List ScopePath := [⟨["g"]⟩, ⟨["f"]⟩, ⟨["g"]⟩]
    let writes : List (TypeVar × TypeTerm VarId) :=
      [(t, .named "int" []), (u, .function [] (.var t.id)), (t, .named "nil" [])]
    let swapped : List (TypeVar × TypeTerm VarId) :=
      [(u, .function [] (.var t.id)), (t, .named "int" []), (t, .named "nil" [])]
    (BindingSet.ofScopes scopes : BindingSet (TypeTerm VarId)).SameScopes (.ofScopes others) ∧
      Rearranged writes swapped ∧
      (((BindingSet.ofScopes scopes).writeAll writes).value ==
        ((BindingSet.ofScopes others).writeAll swapped).value) = true := by
  intro t u scopes others writes swapped
  have filters : (BindingSet.ofScopes scopes : BindingSet (TypeTerm VarId)).SameScopes
      (.ofScopes others) := by
    rw [BindingSet.sameScopes_iff]
    decide
  have apart : t.id ≠ u.id := by decide
  have rearranged : Rearranged writes swapped := rearranged_swap apart _ _ _
  refine ⟨filters, rearranged, ?_⟩
  exact (equality_extensional.2.1 (some scopes) (some others) filters writes swapped).2 rearranged

end BindingStore
