import BindingStore.Proofs.RoundTrip
import Mathlib.Algebra.Group.Nat.Even

namespace BindingStore

namespace Text

/-- Blanks and separators one after another, in any number. -/
inductive Vacant : List Char → Prop where
  | nil : Vacant []
  | blank {c : Char} {s : List Char} (white : isBlank c = true) (rest : Vacant s) : Vacant (c :: s)
  | separator {s : List Char} (rest : Vacant s) : Vacant (':' :: ':' :: s)

/-- Blanks and colons alone, with an even number of colons in every run that no colon stands before
or after. -/
structure EvenColons (s : List Char) : Prop where
  chars : ∀ c ∈ s, isBlank c = true ∨ c = ':'
  runs : ∀ front count back, s = front ++ (List.replicate count ':' ++ back) →
    front.getLast? ≠ some ':' → back.head? ≠ some ':' → Even count

theorem vacant_separator_iff (s : List Char) : Vacant (':' :: ':' :: s) ↔ Vacant s := by
  constructor
  · intro vacant
    cases vacant with
    | blank white rest => exact absurd white (by decide)
    | separator rest => exact rest
  · exact .separator

theorem vacant_cons_iff {c : Char} {s : List Char}
    (apart : ∀ rest, c = ':' → s = ':' :: rest → False) :
    Vacant (c :: s) ↔ isBlank c = true ∧ Vacant s := by
  constructor
  · intro vacant
    cases vacant with
    | blank white rest => exact ⟨white, rest⟩
    | separator rest => exact (apart _ rfl rfl).elim
  · intro parts
    exact .blank parts.1 parts.2

theorem EvenColons.of_separator {s : List Char} (even : EvenColons (':' :: ':' :: s)) :
    EvenColons s where
  chars := fun c member => even.chars c (List.mem_cons_of_mem _ (List.mem_cons_of_mem _ member))
  runs := by
    intro front count back parts before after
    cases front with
    | nil =>
        -- The run goes on with the two colons in front.
        have longer : ':' :: ':' :: s = [] ++ (List.replicate (count + 2) ':' ++ back) := by
          rw [parts]
          rfl
        have whole := even.runs [] (count + 2) back longer before after
        exact (Nat.even_add.mp whole).mpr (by decide)
    | cons c front =>
        apply even.runs (':' :: ':' :: c :: front) count back (by rw [parts]; rfl) _ after
        rwa [List.getLast?_cons_cons, List.getLast?_cons_cons]

theorem EvenColons.separator {s : List Char} (even : EvenColons s) :
    EvenColons (':' :: ':' :: s) where
  chars := by
    intro c member
    rcases List.mem_cons.mp member with first | later
    · exact .inr first
    · rcases List.mem_cons.mp later with second | rest
      · exact .inr second
      · exact even.chars c rest
  runs := by
    intro front count back parts before after
    match front, count with
    | [], 0 => exact absurd (congrArg List.head? parts).symm after
    | [], 1 => exact absurd (congrArg (fun s => s.tail.head?) parts).symm after
    | [], count + 2 =>
        have shorter : s = [] ++ (List.replicate count ':' ++ back) :=
          (List.cons.inj (List.cons.inj parts).2).2
        exact (even.runs [] count back shorter before after).add (by decide)
    | [c], count => exact absurd (congrArg some (List.cons.inj parts).1.symm) before
    | [c, d], count =>
        have last : d = ':' := (List.cons.inj (List.cons.inj parts).2).1.symm
        exact absurd (congrArg some last) before
    | c :: d :: e :: front, count =>
        have shorter : s = (e :: front) ++ (List.replicate count ':' ++ back) :=
          (List.cons.inj (List.cons.inj parts).2).2
        apply even.runs (e :: front) count back shorter _ after
        rwa [List.getLast?_cons_cons, List.getLast?_cons_cons] at before

theorem EvenColons.nil : EvenColons [] where
  chars := fun _ member => nomatch member
  runs := by
    intro front count back parts _ _
    have none : count = 0 := by
      have length := congrArg List.length parts
      simp only [List.length_nil, List.length_append, List.length_replicate] at length
      omega
    rw [none]
    exact Even.zero

theorem EvenColons.blank {c : Char} {s : List Char} (white : isBlank c = true)
    (even : EvenColons s) : EvenColons (c :: s) where
  chars := by
    intro d member
    rcases List.mem_cons.mp member with first | later
    · exact .inl (first ▸ white)
    · exact even.chars d later
  runs := by
    intro front count back parts before after
    match front, count with
    | [], 0 => exact Even.zero
    | [], count + 1 =>
        have colon : c = ':' := (List.cons.inj parts).1
        exact absurd white (colon ▸ by decide)
    | [_], count => exact even.runs [] count back (List.cons.inj parts).2 (by simp) after
    | _ :: d :: front, count =>
        rw [List.getLast?_cons_cons] at before
        exact even.runs (d :: front) count back (List.cons.inj parts).2 before after

theorem EvenColons.of_cons {c : Char} {s : List Char}
    (apart : ∀ rest, c = ':' → s = ':' :: rest → False) (even : EvenColons (c :: s)) :
    isBlank c = true ∧ EvenColons s := by
  have blank : isBlank c = true := by
    rcases even.chars c List.mem_cons_self with white | colon
    · exact white
    · have lone : s.head? ≠ some ':' := by
        intro next
        rcases List.head?_eq_some_iff.mp next with ⟨rest, found⟩
        exact apart rest colon found
      have run : c :: s = [] ++ (List.replicate 1 ':' ++ s) := by rw [colon]; rfl
      exact absurd (even.runs [] 1 s run (by simp) lone) (by decide)
  refine ⟨blank, fun d member => even.chars d (List.mem_cons_of_mem c member), ?_⟩
  intro front count back parts before after
  apply even.runs (c :: front) count back (by rw [parts]; rfl) _ after
  cases front with
  | nil =>
      intro last
      have colon : c = ':' := by simpa using last
      exact absurd blank (colon ▸ by decide)
  | cons d front => rwa [List.getLast?_cons_cons]

theorem vacant_iff_evenColons (s : List Char) : Vacant s ↔ EvenColons s := by
  constructor
  · intro vacant
    induction vacant with
    | nil => exact .nil
    | blank white _ ih => exact ih.blank white
    | separator _ ih => exact ih.separator
  · intro even
    fun_induction pieces s with
    | case1 => exact .nil
    | case2 rest ih => exact .separator (ih even.of_separator)
    | case3 c rest apart none ih => exact absurd none (pieces_ne_nil rest)
    | case4 c rest apart piece others found ih =>
        obtain ⟨blank, later⟩ := even.of_cons apart
        exact .blank blank (ih later)

theorem vacant_iff_pieces (s : List Char) :
    Vacant s ↔ ∀ piece ∈ pieces s, ∀ c ∈ piece, isBlank c = true := by
  fun_induction pieces s with
  | case1 => simp [Vacant.nil]
  | case2 rest ih => simp [vacant_separator_iff, ih]
  | case3 c rest apart none ih => exact absurd none (pieces_ne_nil rest)
  | case4 c rest apart piece others found ih =>
      rw [vacant_cons_iff apart, ih, found]
      simp [and_assoc]

def nonblankPieces (s : List Char) : List (List Char) :=
  (pieces s).filter fun piece => piece.any fun c => !isBlank c

theorem nonblankPieces_eq_nil_iff (s : List Char) : nonblankPieces s = [] ↔ Vacant s := by
  simp [nonblankPieces, vacant_iff_pieces]

theorem words_eq_map_nonblankPieces (s : List Char) : words s = (nonblankPieces s).map trim := by
  rw [words, List.filter_map, nonblankPieces]
  congr 1
  apply List.filter_congr
  intro piece _
  rw [Bool.eq_iff_iff]
  simp [trim_eq_nil_iff]

theorem vacant_iff_words (s : List Char) : Vacant s ↔ words s = [] := by
  rw [words_eq_map_nonblankPieces, List.map_eq_nil_iff, nonblankPieces_eq_nil_iff]

end Text

open Text (Vacant EvenColons nonblankPieces trim)

theorem ScopePath.segmentsOf_eq_map_nonblankPieces (s : String) :
    segmentsOf s = (nonblankPieces s.toList).map fun piece => String.ofList (trim piece) := by
  rw [segmentsOf_eq_words, Text.words_eq_map_nonblankPieces, List.map_map]
  rfl

theorem ScopePath.segmentsOf_eq_nil_iff (s : String) : segmentsOf s = [] ↔ Vacant s.toList := by
  rw [segmentsOf_eq_words, List.map_eq_nil_iff, Text.vacant_iff_words]

namespace VarId

theorem ofText_eq_error_iff (s : String) (error : StoreError) :
    ofText s = .error error ↔ ScopePath.segmentsOf s = [] ∧ error = .notAnId s := by
  cases found : (ScopePath.ofText s).name? with
  | none =>
      have empty : ScopePath.segmentsOf s = [] := List.getLast?_eq_none_iff.mp found
      simp [ofText, found, empty, eq_comm]
  | some name =>
      have named : ScopePath.segmentsOf s ≠ [] := by
        intro empty
        rw [ScopePath.name?, ScopePath.segments_ofText, empty] at found
        cases found
      simp [ofText, found, named]

theorem ofText_eq_ok_iff_nonblankPieces (s : String) (id : VarId) :
    ofText s = .ok id ↔ ∃ front last, nonblankPieces s.toList = front ++ [last] ∧
      id.scope.segments = front.map (fun piece => String.ofList (trim piece)) ∧
      id.name = String.ofList (trim last) := by
  rw [ofText_eq_ok_iff, ScopePath.ofText, path, ScopePath.mk.injEq,
    ScopePath.segmentsOf_eq_map_nonblankPieces, List.map_eq_append_iff]
  constructor
  · intro split
    obtain ⟨front, rest, parts, scope, name⟩ := split
    obtain ⟨last, alone, same⟩ := List.map_eq_singleton_iff.mp name
    exact ⟨front, last, alone ▸ parts, scope.symm, same.symm⟩
  · intro split
    obtain ⟨front, last, parts, scope, name⟩ := split
    exact ⟨front, [last], parts, scope.symm, by rw [List.map_singleton, name]⟩

/-- A text is refused as an id where it holds blanks and separators alone, which is where it holds
blanks and runs of colons of even length, and the error tells it as it stands. From every other text
an id is read: of the pieces that are not blank, trimmed, the last is its name and the others are its
scope. -/
theorem ofText_refuses_vacant (s : String) :
    ((∃ error, ofText s = .error error) ↔ Vacant s.toList) ∧
      (Vacant s.toList ↔ EvenColons s.toList) ∧
      (∀ error, ofText s = .error error ↔ Vacant s.toList ∧ error.kind = .parse ∧
        error.message = "`" ++ s ++ "` is not a valid type variable id") ∧
      ((∃ id, ofText s = .ok id) ↔ ¬ Vacant s.toList) ∧
      ∀ id, ofText s = .ok id ↔ ∃ front last, nonblankPieces s.toList = front ++ [last] ∧
        id.scope.segments = front.map (fun piece => String.ofList (trim piece)) ∧
        id.name = String.ofList (trim last) := by
  have refused : (∃ error, ofText s = .error error) ↔ Vacant s.toList := by
    simp [ofText_eq_error_iff, ScopePath.segmentsOf_eq_nil_iff]
  refine ⟨refused, Text.vacant_iff_evenColons s.toList, ?_, ?_, ofText_eq_ok_iff_nonblankPieces s⟩
  · intro error
    rw [ofText_eq_error_iff, ScopePath.segmentsOf_eq_nil_iff]
    apply and_congr_right
    intro _
    cases error
    simp [StoreError.notAnId, and_comm]
  · rw [← refused]
    cases ofText s <;> simp

example : ofText ": ::::\t" = .ok ⟨":", .root⟩ ∧ ofText ":::" = .ok ⟨":", .root⟩ ∧
    ofText " ::::\t" = .error (.notAnId " ::::\t") := by decide

end VarId

end BindingStore
