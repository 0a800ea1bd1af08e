namespace BindingStore

variable {α : Type} [Ord α]

def ranked (values : List α) : List α := values.mergeSort fun a b => (compare a b).isLE

def greatest? (values : List α) : Option α := (ranked values).getLast?

def insertAscending (value : α) : List α → List α
  | [] => [value]
  | head :: tail =>
    match compare value head with
    | .lt => value :: head :: tail
    | .eq => head :: tail
    | .gt => head :: insertAscending value tail

def ascending (values : List α) : List α := values.foldr insertAscending []

def Ascending (values : List α) : Prop := values.Pairwise fun a b => compare a b = .lt

instance (values : List α) : Decidable (Ascending values) :=
  inferInstanceAs (Decidable (values.Pairwise fun a b => compare a b = .lt))

variable [Std.LawfulEqOrd α]

theorem mem_insertAscending {value x : α} {values : List α} :
    x ∈ insertAscending value values ↔ x = value ∨ x ∈ values := by
  fun_induction insertAscending value values with
  | case1 => simp
  | case2 => simp
  | case3 head tail same =>
    have : value = head := Std.LawfulEqOrd.eq_of_compare same
    simp [this]
  | case4 head tail after ih => simp [ih, or_left_comm]

theorem mem_ascending {x : α} {values : List α} : x ∈ ascending values ↔ x ∈ values := by
  induction values with
  | nil => simp [ascending]
  | cons head tail ih =>
    rw [ascending, List.foldr_cons, mem_insertAscending, List.mem_cons]
    exact or_congr_right ih

variable [Std.TransOrd α]

theorem ascending_insertAscending {value : α} {values : List α} (sorted : Ascending values) :
    Ascending (insertAscending value values) := by
  fun_induction insertAscending value values with
  | case1 => simp [Ascending]
  | case2 head tail before =>
    refine List.pairwise_cons.mpr ⟨fun x member => ?_, sorted⟩
    rcases List.mem_cons.mp member with rfl | later
    · exact before
    · exact Std.TransCmp.lt_trans before ((List.pairwise_cons.mp sorted).1 x later)
  | case3 => exact sorted
  | case4 head tail after ih =>
    obtain ⟨least, rest⟩ := List.pairwise_cons.mp sorted
    refine List.pairwise_cons.mpr ⟨fun x member => ?_, ih rest⟩
    rcases mem_insertAscending.mp member with rfl | later
    · exact Std.OrientedCmp.lt_of_gt after
    · exact least x later

theorem ascending_sorted (values : List α) : Ascending (ascending values) := by
  induction values with
  | nil => simp [ascending, Ascending]
  | cons head tail ih => exact ascending_insertAscending ih

end BindingStore
