import BindingStore.Proofs.ConstructedPaths
import Mathlib.Logic.Function.Iterate

/-! Texts that are read as paths and told again, round after round. A round may set colons side by
side that a blank kept apart, and the next one takes them for a separator. Each round that changes a
text makes it shorter, so after as many rounds as the text has characters nothing changes. -/

namespace BindingStore

open Text (joined pieces trim words)

theorem Text.words_eq_pieces_iff (s : List Char) :
    words s = pieces s ↔ ∀ piece ∈ pieces s, piece ≠ [] ∧ trim piece = piece := by
  constructor
  · intro same piece member
    have word : IsWord piece := isWord_of_mem_words (same ▸ member)
    exact ⟨word.nonempty, word.trimmed⟩
  · intro tidy
    have trimmed : (pieces s).map trim = (pieces s).map id :=
      List.map_congr_left fun piece member => (tidy piece member).2
    rw [words, trimmed, List.map_id, List.filter_eq_self]
    intro piece member
    simpa using (tidy piece member).1

namespace ScopePath

def reread (s : String) : String := (ofText s).text

/-- Texts with nothing to trim or leave out between their separators. -/
def Tidy (s : String) : Prop :=
  s = "" ∨ ∀ piece ∈ pieces s.toList, piece ≠ [] ∧ trim piece = piece

instance (s : String) : Decidable (Tidy s) :=
  inferInstanceAs (Decidable (s = "" ∨ ∀ piece ∈ pieces s.toList, piece ≠ [] ∧ trim piece = piece))

theorem toList_reread (s : String) : (reread s).toList = joined (words s.toList) := by
  rw [reread, toList_text, segments_ofText, segmentsOf_eq_words, List.map_map]
  simp

theorem reread_of_tidy {s : String} (tidy : Tidy s) : reread s = s := by
  rcases tidy with rfl | tidy
  · rfl
  · rw [← String.toList_inj, toList_reread, (Text.words_eq_pieces_iff s.toList).mpr tidy,
      Text.joined_pieces]

theorem length_reread_lt {s : String} (untidy : ¬ Tidy s) : (reread s).length < s.length := by
  rw [Tidy, not_or] at untidy
  have some : s.toList ≠ [] := by simpa using untidy.1
  rw [← String.length_toList, ← String.length_toList, toList_reread]
  rcases Text.words_eq_pieces_or_length_lt some with same | shorter
  · exact absurd ((Text.words_eq_pieces_iff s.toList).mp same) untidy.2
  · exact shorter

theorem reread_eq_self_iff (s : String) : reread s = s ↔ Tidy s := by
  constructor
  · intro same
    by_contra untidy
    have shorter := length_reread_lt untidy
    rw [same] at shorter
    exact lt_irrefl _ shorter
  · exact reread_of_tidy

theorem length_reread_lt_iff (s : String) : (reread s).length < s.length ↔ ¬ Tidy s := by
  constructor
  · intro shorter tidy
    rw [reread_of_tidy tidy] at shorter
    exact lt_irrefl _ shorter
  · exact length_reread_lt

theorem tidy_iterate_reread {s : String} {rounds : Nat} (enough : s.length ≤ rounds) :
    Tidy (reread^[rounds] s) := by
  induction rounds generalizing s with
  | zero => exact .inl (String.length_eq_zero_iff.mp (Nat.le_zero.mp enough))
  | succ rounds ih =>
      by_cases tidy : Tidy s
      · rwa [Function.iterate_fixed (reread_of_tidy tidy)]
      · have shorter := length_reread_lt tidy
        rw [Function.iterate_succ_apply]
        exact ih (by omega)

theorem iterate_reread_of_enough (s : String) (more : Nat) :
    reread^[s.length + more] s = reread^[s.length] s := by
  rw [Nat.add_comm, Function.iterate_add_apply]
  exact Function.iterate_fixed (reread_of_tidy (tidy_iterate_reread le_rfl)) more

/-- Reading a text as a path and telling it again keeps the text where it is tidy and makes it
shorter otherwise. From every text, as many rounds as it has characters lead to one that further
rounds keep, and whose path reads back from its own text. -/
theorem reread_settles (s : String) :
    (reread s = s ↔ Tidy s) ∧ ((reread s).length < s.length ↔ ¬ Tidy s) ∧
      ∃ t, (∀ more, reread^[s.length + more] s = t) ∧ reread t = t ∧
        ofText (ofText t).text = ofText t := by
  have settled : reread (reread^[s.length] s) = reread^[s.length] s :=
    reread_of_tidy (tidy_iterate_reread le_rfl)
  refine ⟨reread_eq_self_iff s, length_reread_lt_iff s, reread^[s.length] s,
    iterate_reread_of_enough s, settled, ?_⟩
  calc
    ofText (ofText (reread^[s.length] s)).text = ofText (reread (reread^[s.length] s)) := rfl
    _ = ofText (reread^[s.length] s) := by rw [settled]

example : reread "a: :: :b" = "a::::b" ∧ reread "a::::b" = "a::b" ∧ Tidy "a::b" := by decide

end ScopePath

end BindingStore
