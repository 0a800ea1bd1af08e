import BindingStore.Proofs.Carried
import BindingStore.Proofs.Equality

namespace BindingStore

theorem forall₂_set {α β : Type} {R : α → β → Prop} {values : List α} {others : List β}
    (related : List.Forall₂ R values others) {value : α} {other : β} (now : R value other)
    (index : Nat) : List.Forall₂ R (values.set index value) (others.set index other) := by
  induction related generalizing index with
  | nil => exact .nil
  | cons first rest ih =>
      cases index with
      | zero => exact .cons now rest
      | succ index => exact .cons first (ih index)

theorem TypeVar.text_eq_ite (v : TypeVar) :
    v.text = (if v.isParamSpec then "**" else "") ++ v.id.text := by
  rcases v with ⟨id, kind⟩
  cases kind <;> rfl

namespace Change

variable {τ : Type}

def writer? : Change τ → Option TypeVar
  | broadcast v _ => some v
  | write _ v _ => some v
  | rebuild _ => none

/-- Two writes of one type to one place, through variables of one id. -/
inductive SameButKind : Change τ → Change τ → Prop where
  | broadcast {v w : TypeVar} (sameId : v.id = w.id) (type : τ) :
      SameButKind (.broadcast v type) (.broadcast w type)
  | write (index : Nat) {v w : TypeVar} (sameId : v.id = w.id) (type : τ) :
      SameButKind (.write index v type) (.write index w type)

end Change

open Change (SameButKind)

/-- Two records of writes that differ in the kinds of their variables. Where a type was replaced,
the variable is marked if it is a parameter specification, and not else. -/
inductive SameButMark {τ : Type} (change other : Change τ) : Record → Record → Prop where
  | written (message : String) : SameButMark change other ⟨.trace, message⟩ ⟨.trace, message⟩
  | replaced {v w : TypeVar} (writer : change.writer? = some v) (rewriter : other.writer? = some w)
      (previous : String) :
      SameButMark change other
        ⟨.debug, "set_ty: replaced binding " ++ previous ++ " for " ++
          (if v.isParamSpec then "**" else "") ++ v.id.text⟩
        ⟨.debug, "set_ty: replaced binding " ++ previous ++ " for " ++
          (if w.isParamSpec then "**" else "") ++ v.id.text⟩

/-- The records of two runs, given change by change, are the same but for the marks. -/
inductive Retold {τ : Type} :
    List (Change τ) → List (Change τ) → List (List Record) → List (List Record) → Prop where
  | nil : Retold [] [] [] []
  | cons {change other : Change τ} {changes others : List (Change τ)}
      {told retold : List Record} {later relater : List (List Record)}
      (now : List.Forall₂ (SameButMark change other) told retold)
      (rest : Retold changes others later relater) :
      Retold (change :: changes) (other :: others) (told :: later) (retold :: relater)

variable {τ : Type} [Bindable τ]

namespace Solution

def recordsEach (s : Solution τ) : List (Change τ) → List (List Record)
  | [] => []
  | change :: rest => (s.attempt change).records :: (s.attempt change).value.recordsEach rest

theorem flatten_recordsEach (s : Solution τ) (changes : List (Change τ)) :
    (s.recordsEach changes).flatten = (s.attemptAll changes).records := by
  induction changes generalizing s with
  | nil => rfl
  | cons change rest ih =>
      rw [recordsEach, List.flatten_cons, ih, attemptAll_cons, Logged.records_andThen]

end Solution

/-- A relation that sets keep under writes through variables of one id, and where they bind every id
to the same type. -/
structure Coupled (R : BindingSet τ → BindingSet τ → Prop) : Prop where
  lookupId : ∀ {set other}, R set other → ∀ id, set.lookupId id = other.lookupId id
  write : ∀ {set other}, R set other → ∀ {v w : TypeVar}, v.id = w.id → ∀ type,
    R (set.write v type).value (other.write w type).value

namespace Coupled

theorem eq : Coupled (Eq : BindingSet τ → BindingSet τ → Prop) where
  lookupId := by
    intro set other same id
    rw [same]
  write := by
    intro set other same v w sameId type
    rw [same, BindingSet.write, BindingSet.write, sameId]

theorem beq [DecidableEq τ] :
    Coupled fun set other : BindingSet τ => (set == other) = true where
  lookupId := by
    intro set other equal
    exact ((BindingSet.beq_iff set other).mp equal).2
  write := by
    intro set other equal v w sameId type
    have sameWrite : (other.write w type).value = (other.write v type).value := by
      rw [BindingSet.write, BindingSet.write, sameId]
    rw [sameWrite]
    exact BindingSet.beq_write equal v type

variable {R : BindingSet τ → BindingSet τ → Prop}

theorem records_write (coupled : Coupled R) {set other : BindingSet τ} (related : R set other)
    {v w : TypeVar} (sameId : v.id = w.id) (type : τ) {first second : Change τ}
    (writer : first.writer? = some v) (rewriter : second.writer? = some w) :
    List.Forall₂ (SameButMark first second) (set.write v type).records
      (other.write w type).records := by
  have sameType : other.lookup w = set.lookup v := by
    rw [BindingSet.lookup, BindingSet.lookup, ← sameId, coupled.lookupId related]
  have sameMessage : BindingSet.writing w type = BindingSet.writing v type := by
    rw [BindingSet.writing, BindingSet.writing, sameId]
  rw [BindingSet.write, BindingSet.write, sameType, sameMessage]
  apply List.Forall₂.cons (.written _)
  cases set.lookup v with
  | none => exact .nil
  | some previous =>
      apply List.Forall₂.cons _ .nil
      rw [BindingSet.replacing, BindingSet.replacing, v.text_eq_ite, w.text_eq_ite, ← sameId,
        ← String.append_assoc, ← String.append_assoc]
      exact .replaced writer rewriter (Bindable.text previous)

theorem attempt (coupled : Coupled R) {a b : Solution τ} (related : List.Forall₂ R a.sets b.sets)
    {change other : Change τ} (twins : SameButKind change other) :
    List.Forall₂ R (a.attempt change).value.sets (b.attempt other).value.sets ∧
      List.Forall₂ (SameButMark change other) (a.attempt change).records
        (b.attempt other).records := by
  cases twins with
  | broadcast sameId type =>
      rw [Solution.attempt_broadcast, Solution.attempt_broadcast]
      constructor
      · rw [Solution.sets_broadcast, Solution.sets_broadcast, List.forall₂_map_left_iff,
          List.forall₂_map_right_iff]
        exact related.imp fun set other holds => coupled.write holds sameId type
      · apply List.rel_flatMap related
        intro set other holds
        exact coupled.records_write holds sameId type rfl rfl
  | write index sameId type =>
      have found := rel_getElem? related index
      rw [Solution.attempt_write, Solution.attempt_write]
      -- Both solutions have a set at the index, or neither has.
      generalize a.sets[index]? = first at found ⊢
      generalize b.sets[index]? = second at found ⊢
      cases found with
      | none => exact ⟨related, .nil⟩
      | some holds =>
          constructor
          · exact forall₂_set related (coupled.write holds sameId type) index
          · exact coupled.records_write holds sameId type rfl rfl

theorem attemptAll (coupled : Coupled R) {a b : Solution τ}
    (related : List.Forall₂ R a.sets b.sets) {changes others : List (Change τ)}
    (twins : List.Forall₂ SameButKind changes others) :
    List.Forall₂ R (a.attemptAll changes).value.sets (b.attemptAll others).value.sets ∧
      Retold changes others (a.recordsEach changes) (b.recordsEach others) := by
  induction twins generalizing a b with
  | nil => exact ⟨related, .nil⟩
  | cons first _ ih =>
      obtain ⟨next, now⟩ := coupled.attempt related first
      obtain ⟨last, later⟩ := ih next
      exact ⟨last, .cons now later⟩

end Coupled

namespace Solution

variable [DecidableEq τ]

/-- Two runs whose writes differ in the kinds of their variables alone tell of each write the same
but for the mark of its variable. Both started from the same solution, traversal order included,
they end in the same solution, so no traversal, display or answer differs. Started from equal
solutions, which may differ in that order, they end in equal ones that give the same answers. -/
theorem kinds_leave_no_trace {changes others : List (Change τ)}
    (twins : List.Forall₂ SameButKind changes others) :
    (∀ s : Solution τ, (s.attemptAll changes).value = (s.attemptAll others).value ∧
      (s.attemptAll changes).records = (s.recordsEach changes).flatten ∧
      (s.attemptAll others).records = (s.recordsEach others).flatten ∧
      Retold changes others (s.recordsEach changes) (s.recordsEach others)) ∧
    ∀ a b : Solution τ, (a == b) = true →
      ((a.attemptAll changes).value == (b.attemptAll others).value) = true ∧
        (a.attemptAll changes).value.SameAnswers (b.attemptAll others).value ∧
        Retold changes others (a.recordsEach changes) (b.recordsEach others) := by
  constructor
  · intro s
    have sameSets : List.Forall₂ Eq s.sets s.sets := List.forall₂_refl s.sets
    obtain ⟨last, retold⟩ := Coupled.eq.attemptAll sameSets twins
    rw [List.forall₂_eq_eq_eq] at last
    exact ⟨eq_of_sets last, (s.flatten_recordsEach changes).symm,
      (s.flatten_recordsEach others).symm, retold⟩
  · intro a b equal
    obtain ⟨last, retold⟩ := Coupled.beq.attemptAll ((beq_iff_forall₂ _ _).mp equal) twins
    have equalLast : ((a.attemptAll changes).value == (b.attemptAll others).value) = true :=
      (beq_iff_forall₂ _ _).mpr last
    exact ⟨equalLast, sameAnswers_of_beq equalLast, retold⟩

theorem kinds_leave_no_trace_branches :
    let t : TypeVar := ⟨⟨"P", ⟨["f"]⟩⟩, .type⟩
    let p : TypeVar := ⟨⟨"P", ⟨["f"]⟩⟩, .paramSpec⟩
    let u : TypeVar := ⟨⟨"U", ⟨[]⟩⟩, .type⟩
    let changes : List (Change Int) := [.write 1 t 1, .write 2 t 7, .broadcast p 2]
    let others : List (Change Int) := [.write 1 p 1, .write 2 t 7, .broadcast t 2]
    let s : Solution Int := (ofSets [.empty, .ofScopes [⟨["f"]⟩]]).value
    let a : Solution Int := (ofSets [(BindingSet.empty.writeAll [(t, 3), (u, 4)]).value]).value
    let b : Solution Int := (ofSets [(BindingSet.empty.writeAll [(u, 4), (p, 3)]).value]).value
    List.Forall₂ SameButKind changes others ∧
      (s.attemptAll changes).value.sets.map BindingSet.toList = [[(t.id, 2)], [(t.id, 2)]] ∧
      Retold changes others (s.recordsEach changes) (s.recordsEach others) ∧
      (s.attemptAll changes).records.map Record.text =
        ["TRACE set_ty: f::P => 1", "TRACE set_ty: f::P => 2", "TRACE set_ty: f::P => 2",
          "DEBUG set_ty: replaced binding 1 for **f::P"] ∧
      (a == b) = true ∧ ((a.attemptAll changes).value == (b.attemptAll others).value) = true ∧
      (a.attemptAll changes).value.SameAnswers (b.attemptAll others).value := by
  intro t p u changes others s a b
  have sameId : t.id = p.id := rfl
  have twins : List.Forall₂ SameButKind changes others :=
    .cons (.write 1 sameId 1) (.cons (.write 2 rfl 7) (.cons (.broadcast sameId.symm 2) .nil))
  have equal : (a == b) = true := by decide
  obtain ⟨same, alike⟩ := kinds_leave_no_trace (τ := Int) twins
  obtain ⟨values, -, -, retold⟩ := same s
  obtain ⟨equalLast, answers, -⟩ := alike a b equal
  refine ⟨twins, ?_, retold, by decide, equal, equalLast, answers⟩
  rw [values]
  decide

end Solution

end BindingStore
