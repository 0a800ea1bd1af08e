import BindingStore.Proofs.Broadcast
import BindingStore.Proofs.Indices

/-! The records of a session. They are told by the history alone: a write is told by the variable and
the type, and where its id was bound in the set, by the last write under that id before it or else by
the set as it was given. A broadcast is told set by set; what is only read or refused is not told. -/

namespace BindingStore

theorem flatMap_zipIdx_of_alone {α β : Type} {f : α × Nat → List β} (values : List α)
    (index start : Nat) (alone : ∀ value other, other ≠ start + index → f (value, other) = []) :
    (values.zipIdx start).flatMap f =
      (values[index]?.map fun value => f (value, start + index)).getD [] := by
  induction values generalizing index start with
  | nil => rfl
  | cons head tail ih =>
      rw [List.zipIdx_cons, List.flatMap_cons]
      cases index with
      | zero =>
          have later : (tail.zipIdx (start + 1)).flatMap f = [] := by
            rw [List.flatMap_eq_nil_iff]
            intro entry member
            have place := (List.mem_zipIdx member).1
            exact alone entry.1 entry.2 (by omega)
          rw [later, List.append_nil]
          rfl
      | succ index =>
          have shift : start + 1 + index = start + (index + 1) := by omega
          rw [alone head start (by omega), List.nil_append, ih index (start + 1) (shift ▸ alone), shift]
          rfl

inductive Message (τ : Type) where
  | built (count : Nat)
  | written (index : Nat) (var : TypeVar) (type : τ)
  | replaced (index : Nat) (previous : τ) (var : TypeVar)
  deriving DecidableEq, Repr

namespace Message

variable {τ : Type}

def ofBuilding : Nat → List (Message τ)
  | 0 => []
  | count + 1 => [built (count + 1)]

def ofWrite (index : Nat) (v : TypeVar) (type : τ) : Option τ → List (Message τ)
  | none => [written index v type]
  | some previous => [written index v type, replaced index previous v]

def isReplacedIn (index : Nat) : Message τ → Bool
  | built _ => false
  | written .. => false
  | replaced other .. => other = index

def record [Bindable τ] : Message τ → Record
  | built count => ⟨.debug, "solution with " ++ toString count ++ " candidate set(s)"⟩
  | written _ v type => ⟨.trace, "set_ty: " ++ v.id.text ++ " => " ++ Bindable.text type⟩
  | replaced _ previous v =>
    ⟨.debug, "set_ty: replaced binding " ++ Bindable.text previous ++ " for " ++ v.text⟩

end Message

namespace BindingSet

variable {τ : Type}

theorem size_eq_length_keys (s : BindingSet τ) : s.size = s.bindings.keys.length :=
  (List.length_map Prod.fst).symm

theorem size_of_isEmpty {s : BindingSet τ} (empty : s.isEmpty = true) : s.size = 0 :=
  List.length_eq_zero_iff.mpr (List.isEmpty_iff.mp empty)

variable [Bindable τ]

theorem records_writeAll_singleton (s : BindingSet τ) (v : TypeVar) (type : τ) :
    (s.writeAll [(v, type)]).records = (s.write v type).records :=
  List.append_nil _

theorem size_write (s : BindingSet τ) (v : TypeVar) (type : τ) :
    (s.lookup v).toList.length + (s.write v type).value.size = 1 + s.size := by
  have unbound : s.lookup v = none ↔ v.id ∉ s.bindings.keys := s.bindings.get?_eq_none_iff v.id
  rw [size_eq_length_keys, size_eq_length_keys, bindings_write, Bindings.keys_insert]
  by_cases bound : v.id ∈ s.bindings.keys
  · have found : (s.lookup v).isSome := by
      rw [Option.isSome_iff_ne_none, ne_eq, unbound]
      exact not_not_intro bound
    rcases Option.isSome_iff_exists.mp found with ⟨previous, holds⟩
    rw [if_pos bound, holds]
    rfl
  · rw [if_neg bound, unbound.mpr bound, List.length_append, List.length_singleton]
    simp [Nat.add_comm]

def replacements (records : List Record) : Nat := records.countP fun record => record.level = .debug

theorem replacements_writeAll (s : BindingSet τ) (writes : List (TypeVar × τ)) :
    replacements (s.writeAll writes).records + (s.writeAll writes).value.size =
      writes.length + s.size := by
  induction writes generalizing s with
  | nil => simp [replacements]
  | cons write rest ih =>
      rcases write with ⟨v, type⟩
      have now : replacements (s.write v type).records = (s.lookup v).toList.length := by
        rw [write]
        cases s.lookup v <;> rfl
      have grown := s.size_write v type
      have later := ih (s.write v type).value
      rw [writeAll, Logged.records_andThen, Logged.value_andThen, replacements, List.countP_append,
        ← replacements, ← replacements, now, List.length_cons]
      omega

end BindingSet

/-- A set as it was given, and the writes that it has received since. -/
structure Lineage (τ : Type) where
  origin : BindingSet τ
  writes : List (TypeVar × τ)

namespace Lineage

variable {τ : Type}

def given (set : BindingSet τ) : Lineage τ := ⟨set, []⟩

def receive (l : Lineage τ) (writes : List (TypeVar × τ)) : Lineage τ :=
  ⟨l.origin, l.writes ++ writes⟩

theorem receive_nil (l : Lineage τ) : l.receive [] = l := by
  rw [receive, List.append_nil]

theorem receive_append (l : Lineage τ) (front back : List (TypeVar × τ)) :
    l.receive (front ++ back) = (l.receive front).receive back := by
  rw [receive, receive, receive, List.append_assoc]

/-- The type of the last write under an id, or else the one that the set was given with. -/
def latest? (l : Lineage τ) (id : VarId) : Option τ :=
  (History.lastType id l.writes).or (l.origin.lookupId id)

def messages (l : Lineage τ) (index : Nat) : Option (TypeVar × τ) → List (Message τ)
  | none => []
  | some (v, type) => Message.ofWrite index v type (l.latest? v.id)

def orFresh : List (Lineage τ) → List (Lineage τ)
  | [] => [given .empty]
  | l :: rest => l :: rest

theorem length_orFresh (lineages : List (Lineage τ)) :
    (orFresh lineages).length = max 1 lineages.length := by
  cases lineages <;> simp [orFresh]

def advance (lineages : List (Lineage τ)) : Change τ → List (Lineage τ)
  | .rebuild kept => orFresh (kept.filterMap fun index => lineages[index]?)
  | change => lineages.mapIdx fun index l => l.receive (change.writeInto? index).toList

/-- The messages of a change, by the sets in order. -/
def tell (lineages : List (Lineage τ)) : Change τ → List (Message τ)
  | .rebuild kept => Message.ofBuilding (kept.filterMap fun index => lineages[index]?).length
  | change => lineages.zipIdx.flatMap fun (l, index) => l.messages index (change.writeInto? index)

def transcript (lineages : List (Lineage τ)) : List (Change τ) → List (Message τ)
  | [] => []
  | change :: rest => tell lineages change ++ transcript (advance lineages change) rest

theorem advance_of_isWrite {change : Change τ} (write : change.IsWrite)
    (lineages : List (Lineage τ)) :
    advance lineages change =
      lineages.mapIdx fun index l => l.receive (change.writeInto? index).toList := by
  cases change with
  | broadcast v type | write index v type => rfl
  | rebuild kept => exact write.elim

theorem tell_of_isWrite {change : Change τ} (write : change.IsWrite)
    (lineages : List (Lineage τ)) :
    tell lineages change =
      lineages.zipIdx.flatMap fun (l, index) => l.messages index (change.writeInto? index) := by
  cases change with
  | broadcast v type | write index v type => rfl
  | rebuild kept => exact write.elim

theorem filter_messages_of_ne (l : Lineage τ) {index other : Nat} (apart : other ≠ index)
    (write? : Option (TypeVar × τ)) :
    (l.messages other write?).filter (Message.isReplacedIn index) = [] := by
  cases write? with
  | none => rfl
  | some write =>
      rw [messages]
      cases l.latest? write.1.id <;> simp [Message.ofWrite, Message.isReplacedIn, apart]

theorem countP_tell {change : Change τ} (write : change.IsWrite) {lineages : List (Lineage τ)}
    {index : Nat} {l : Lineage τ} (found : lineages[index]? = some l) :
    (tell lineages change).countP (Message.isReplacedIn index) =
      (l.messages index (change.writeInto? index)).countP (Message.isReplacedIn index) := by
  rw [tell_of_isWrite write, List.countP_eq_length_filter, List.filter_flatMap,
    flatMap_zipIdx_of_alone lineages index 0]
  · rw [found, Nat.zero_add, List.countP_eq_length_filter]
    rfl
  · intro l other apart
    rw [Nat.zero_add] at apart
    exact l.filter_messages_of_ne apart (change.writeInto? other)

theorem advance_rebuild_range {lineages : List (Lineage τ)} (nonempty : lineages ≠ []) :
    advance lineages (.rebuild (List.range lineages.length)) = lineages := by
  rw [advance, filterMap_range_getElem?]
  cases lineages with
  | nil => exact absurd rfl nonempty
  | cons l rest => rfl

theorem countP_tell_rebuild (lineages : List (Lineage τ)) (kept : List Nat) (index : Nat) :
    (tell lineages (.rebuild kept)).countP (Message.isReplacedIn index) = 0 := by
  rw [tell]
  cases (kept.filterMap fun place => lineages[place]?).length <;> rfl

variable [Bindable τ]

def set (l : Lineage τ) : BindingSet τ := (l.origin.writeAll l.writes).value

theorem set_receive (l : Lineage τ) (writes : List (TypeVar × τ)) :
    (l.receive writes).set = (l.set.writeAll writes).value :=
  l.origin.writeAll_append l.writes writes

theorem lookup_set (l : Lineage τ) (v : TypeVar) : l.set.lookup v = l.latest? v.id :=
  l.origin.lookupId_writeAll l.writes v.id

theorem records_messages (l : Lineage τ) (index : Nat) (write? : Option (TypeVar × τ)) :
    (l.set.writeAll write?.toList).records = (l.messages index write?).map Message.record := by
  cases write? with
  | none => rfl
  | some write =>
      rcases write with ⟨v, type⟩
      rw [Option.toList_some, BindingSet.records_writeAll_singleton, BindingSet.write, lookup_set,
        messages]
      cases l.latest? v.id <;> rfl

end Lineage

open Lineage (orFresh advance tell transcript)

namespace Solution

variable {τ : Type} [Bindable τ]

theorem records_attempt {change : Change τ} (write : change.IsWrite) (s : Solution τ) :
    (s.attempt change).records = s.sets.zipIdx.flatMap fun (set, index) =>
      (set.writeAll (change.writeInto? index).toList).records := by
  cases change with
  | broadcast v type =>
      simp only [Change.writeInto?, Option.toList_some, BindingSet.records_writeAll_singleton]
      calc
        (s.attempt (.broadcast v type)).records =
            s.sets.flatMap fun set => (set.write v type).records := rfl
        _ = (s.sets.zipIdx.map Prod.fst).flatMap fun set => (set.write v type).records := by
          rw [List.zipIdx_map_fst]
        _ = s.sets.zipIdx.flatMap fun entry => (entry.1.write v type).records :=
          List.flatMap_map Prod.fst _ _
  | write target v type =>
      rw [flatMap_zipIdx_of_alone s.sets target 0]
      · cases found : s.sets[target]? with
        | none =>
            have beyond : s.size ≤ target := List.getElem?_eq_none_iff.mp found
            rw [attempt_write_of_size_le beyond]
            rfl
        | some set =>
            rw [attempt_write_of_getElem? found]
            simp [Change.writeInto?, BindingSet.records_writeAll_singleton]
      · intro set other apart
        have passed : target ≠ other := by omega
        simp [Change.writeInto?, passed]
  | rebuild kept => exact write.elim

theorem ofSets_lineages (lineages : List (Lineage τ)) :
    (ofSets (lineages.map Lineage.set)).value.sets = (orFresh lineages).map Lineage.set ∧
      (ofSets (lineages.map Lineage.set)).records =
        (Message.ofBuilding lineages.length : List (Message τ)).map Message.record := by
  cases lineages with
  | nil => exact ⟨rfl, rfl⟩
  | cons l rest => simp [ofSets, orFresh, Message.ofBuilding, Message.record]

theorem attempt_lineages {s : Solution τ} {lineages : List (Lineage τ)}
    (tracked : s.sets = lineages.map Lineage.set) (change : Change τ) :
    (s.attempt change).value.sets = (advance lineages change).map Lineage.set ∧
      (s.attempt change).records = (tell lineages change).map Message.record := by
  rcases change.isWrite_or_rebuild with write | ⟨kept, rfl⟩
  · constructor
    · rw [sets_attempt write, tracked, Lineage.advance_of_isWrite write]
      apply List.ext_getElem?
      intro index
      simp only [List.getElem?_mapIdx, List.getElem?_map, Option.map_map, Function.comp_def,
        Lineage.set_receive]
    · rw [records_attempt write, tracked, Lineage.tell_of_isWrite write, List.zipIdx_map,
        List.flatMap_map, List.map_flatMap]
      congr 1
      funext entry
      exact entry.1.records_messages entry.2 (change.writeInto? entry.2)
  · have found : (kept.filterMap fun index => s.sets[index]?) =
        (kept.filterMap fun index => lineages[index]?).map Lineage.set := by
      rw [tracked, List.map_filterMap]
      simp only [List.getElem?_map]
    rw [attempt_rebuild, rebuild, found]
    exact ofSets_lineages _

theorem attemptAll_lineages {s : Solution τ} {lineages : List (Lineage τ)}
    (tracked : s.sets = lineages.map Lineage.set) (changes : List (Change τ)) :
    (s.attemptAll changes).value.sets = (changes.foldl advance lineages).map Lineage.set ∧
      (s.attemptAll changes).records = (transcript lineages changes).map Message.record := by
  induction changes generalizing s lineages with
  | nil => exact ⟨tracked, rfl⟩
  | cons change rest ih =>
      rcases attempt_lineages tracked change with ⟨next, told⟩
      rcases ih next with ⟨last, later⟩
      refine ⟨last, ?_⟩
      rw [attemptAll_cons, Logged.records_andThen, told, later, transcript, List.map_append]

end Solution

namespace Lineage

variable {τ : Type} [Bindable τ]

theorem size_receive (l : Lineage τ) (index : Nat) (write? : Option (TypeVar × τ)) :
    (l.messages index write?).countP (Message.isReplacedIn index) +
        (l.receive write?.toList).set.size = write?.toList.length + l.set.size := by
  rw [set_receive]
  cases write? with
  | none => simp [messages]
  | some write =>
      rcases write with ⟨v, type⟩
      have grown := l.set.size_write v type
      rw [lookup_set] at grown
      have told : (l.messages index (some (v, type))).countP (Message.isReplacedIn index) =
          (l.latest? v.id).toList.length := by
        rw [messages]
        cases l.latest? v.id <;> simp [Message.ofWrite, Message.isReplacedIn]
      calc
        (l.messages index (some (v, type))).countP (Message.isReplacedIn index) +
            (l.set.writeAll [(v, type)]).value.size =
            (l.latest? v.id).toList.length + (l.set.write v type).value.size := by
          rw [told]
          rfl
        _ = 1 + l.set.size := grown

theorem tally_change {change : Change τ} {lineages : List (Lineage τ)}
    (keeps : change.KeepsSets lineages.length) {index : Nat} {l : Lineage τ}
    (found : lineages[index]? = some l) :
    (advance lineages change).length = lineages.length ∧
      (advance lineages change)[index]? = some (l.receive (change.writeInto? index).toList) ∧
      (tell lineages change).countP (Message.isReplacedIn index) +
          (l.receive (change.writeInto? index).toList).set.size =
        (change.writeInto? index).toList.length + l.set.size := by
  rcases change.isWrite_or_rebuild with write | ⟨kept, rfl⟩
  · refine ⟨?_, ?_, ?_⟩
    · rw [advance_of_isWrite write, List.length_mapIdx]
    · rw [advance_of_isWrite write, List.getElem?_mapIdx, found, Option.map_some]
    · rw [countP_tell write found, size_receive]
  · have nonempty : lineages ≠ [] := by
      intro none
      rw [none] at found
      cases found
    have same : advance lineages (.rebuild kept) = lineages := by
      rw [show kept = List.range lineages.length from keeps, advance_rebuild_range nonempty]
    rw [same, countP_tell_rebuild, found]
    simp [Change.writeInto?, receive_nil]

theorem tally {changes : List (Change τ)} {lineages : List (Lineage τ)}
    (keep : ∀ change ∈ changes, change.KeepsSets lineages.length) {index : Nat} {l : Lineage τ}
    (found : lineages[index]? = some l) :
    (changes.foldl advance lineages)[index]? = some (l.receive (Change.received index changes)) ∧
      (transcript lineages changes).countP (Message.isReplacedIn index) +
          (l.receive (Change.received index changes)).set.size =
        (Change.received index changes).length + l.set.size := by
  induction changes generalizing lineages l with
  | nil =>
      rw [Change.received, List.filterMap_nil, receive_nil]
      exact ⟨found, rfl⟩
  | cons change rest ih =>
      rcases List.forall_mem_cons.mp keep with ⟨first, later⟩
      rcases tally_change first found with ⟨size, next, now⟩
      rcases ih (size.symm ▸ later) next with ⟨last, told⟩
      rw [Change.received_cons, receive_append]
      refine ⟨last, ?_⟩
      rw [transcript, List.countP_append, List.length_append]
      omega

end Lineage

open BindingSet (replacements)

/-- The records of a session that never goes back are those of its transcript, whatever is asked and
refused in between. In a set that was given empty, the writes that do not bind a new id are told to
replace a type, and the transcript tells them at the index where the set stays. -/
theorem Session.records_eq_transcript {ρ τ : Type} [Recipe ρ τ] [Bindable τ] [DecidableEq τ]
    (sets : List (BindingSet τ)) (steps : List (Step ρ)) (forward : ∀ step ∈ steps, step ≠ .restore) :
    let opened := Solution.ofSets sets
    let changes : List (Change τ) := steps.filterMap Step.change?
    let lineages := orFresh (sets.map Lineage.given)
    let last := ((State.start opened.value).attemptAll steps).value.solution
    opened.records ++ (Session.entries (.start opened.value) steps).flatMap Entry.records =
        (Message.ofBuilding sets.length ++ transcript lineages changes).map Message.record ∧
      last.sets = (changes.foldl advance lineages).map Lineage.set ∧
      (∀ (l : Lineage τ) (v : TypeVar), l.set.lookup v = l.latest? v.id) ∧
      (∀ l : Lineage τ, l.origin.isEmpty = true →
        replacements (l.origin.writeAll l.writes).records + l.set.size = l.writes.length) ∧
      ((∀ step ∈ steps, step.KeepsSets (max 1 sets.length)) →
        ∀ (index : Nat) (first set : BindingSet τ), opened.value.sets[index]? = some first →
          first.isEmpty = true → last.sets[index]? = some set →
          (transcript lineages changes).countP (Message.isReplacedIn index) + set.size =
            (Change.received index changes).length) := by
  intro opened changes lineages last
  have origins : (sets.map Lineage.given).map Lineage.set = sets := by
    rw [List.map_map]
    exact List.map_id sets
  have opening := Solution.ofSets_lineages (sets.map Lineage.given)
  rw [origins, List.length_map] at opening
  rcases opening with ⟨tracked, announced⟩
  rcases Solution.attemptAll_lineages tracked changes with ⟨ends, told⟩
  have run : ((State.start opened.value).attemptAll steps).map State.solution =
      opened.value.attemptAll changes := State.solution_attemptAll forward _
  have reached : last.sets = (changes.foldl advance lineages).map Lineage.set := by
    rw [← ends, ← run]
    rfl
  refine ⟨?_, reached, Lineage.lookup_set, ?_, ?_⟩
  · have records : (Session.entries (.start opened.value) steps).flatMap Entry.records =
        (opened.value.attemptAll changes).records := by
      rw [Session.records_entries, ← run, Logged.records_map]
    rw [records, told, announced, List.map_append]
  · intro l empty
    have counted := l.origin.replacements_writeAll l.writes
    rw [BindingSet.size_of_isEmpty empty] at counted
    exact counted
  · intro keep index first set given empty ended
    rw [tracked, List.getElem?_map] at given
    rcases Option.map_eq_some_iff.mp given with ⟨l, found, rfl⟩
    have kept : ∀ change ∈ changes, change.KeepsSets lineages.length := by
      rw [Lineage.length_orFresh, List.length_map]
      exact Step.keepsSets_changes keep
    rcases Lineage.tally kept found with ⟨place, counted⟩
    rw [reached, List.getElem?_map, place] at ended
    cases ended
    rw [counted, BindingSet.size_of_isEmpty empty, Nat.add_zero]

theorem Session.records_eq_transcript_branches :
    let t : VarRecipe := .declared "T" (.text "f") .type
    let u : VarRecipe := .declared "U" (.text "f") .paramSpec
    let sets : List (BindingSet Int) := [.empty, .ofScopes [⟨["f"]⟩]]
    let steps : List (Step Int) :=
      [.write 1 t 1, .ask (.text 2), .write 2 t 5, .rebuild [0, 1], .writeAll t 2, .write 0 u 3]
    let opened := Solution.ofSets sets
    let last := ((State.start opened.value).attemptAll steps).value.solution
    (∀ step ∈ steps, step ≠ .restore) ∧ (∀ step ∈ steps, step.KeepsSets (max 1 2)) ∧
      (opened.records ++
          (Session.entries (.start opened.value) steps).flatMap Entry.records).map Record.text =
        ["DEBUG solution with 2 candidate set(s)", "TRACE set_ty: f::T => 1",
          "DEBUG solution with 2 candidate set(s)", "TRACE set_ty: f::T => 2",
          "TRACE set_ty: f::T => 2", "DEBUG set_ty: replaced binding 1 for f::T",
          "TRACE set_ty: f::U => 3"] ∧
      ∀ set, last.sets[1]? = some set → 1 + set.size = 2 := by
  intro t u sets steps opened last
  have keep : ∀ step ∈ steps, step.KeepsSets (max 1 2) := by
    simp [steps, Step.KeepsSets, List.range_succ]
  have forward : ∀ step ∈ steps, step ≠ .restore := fun step member => (keep step member).ne_restore
  rcases records_eq_transcript sets steps forward with ⟨told, -, -, -, counted⟩
  refine ⟨forward, keep, ?_, ?_⟩
  · rw [told]
    decide
  · intro set ended
    exact counted keep 1 (.ofScopes [⟨["f"]⟩]) set rfl rfl ended

end BindingStore
