import BindingStore.Proofs.Words
import BindingStore.ScopePath

/-! Paths that are made from texts. Whatever the texts and however they are put together, the
segments of such a path are names, and every list of names is the list of segments of one. -/

namespace BindingStore

open Text (IsName IsWord words joined separator)

theorem Text.isName_iff_isWord (s : String) : IsName s ↔ IsWord s.toList := by
  have nonempty : s ≠ "" ↔ s.toList ≠ [] := by simp
  constructor
  · rintro ⟨some, single, trimmed⟩
    exact ⟨nonempty.mp some, single, trimmed⟩
  · intro word
    exact ⟨nonempty.mpr word.nonempty, word.single, word.trimmed⟩

namespace ScopePath

theorem segmentsOf_eq_words (s : String) :
    segmentsOf s = (words s.toList).map String.ofList := rfl

theorem toList_text (p : ScopePath) : p.text.toList = joined (p.segments.map String.toList) :=
  String.toList_intercalate

theorem isName_of_mem_segmentsOf {s segment : String} (member : segment ∈ segmentsOf s) :
    IsName segment := by
  rw [segmentsOf_eq_words] at member
  rcases List.mem_map.mp member with ⟨word, found, rfl⟩
  rw [Text.isName_iff_isWord, String.toList_ofList]
  exact Text.isWord_of_mem_words found

theorem segmentsOf_of_isName {s : String} (name : IsName s) : segmentsOf s = [s] := by
  rw [segmentsOf_eq_words, Text.words_of_isWord ((Text.isName_iff_isWord s).mp name)]
  simp

/-- A path whose segments read back as they are. -/
def Normal (p : ScopePath) : Prop := ∀ segment ∈ p.segments, IsName segment

theorem normal_iff_isWord (p : ScopePath) :
    p.Normal ↔ ∀ word ∈ p.segments.map String.toList, IsWord word := by
  simp [Normal, Text.isName_iff_isWord]

inductive Constructed : ScopePath → Prop where
  | root : Constructed root
  | ofText (s : String) : Constructed (ofText s)
  | ofTexts (texts : List String) : Constructed (ofTexts texts)
  | append {p : ScopePath} (made : Constructed p) (s : String) : Constructed (p.append s)
  | parent {p : ScopePath} (made : Constructed p) : Constructed p.parent

theorem Constructed.normal {p : ScopePath} (made : Constructed p) : p.Normal := by
  induction made with
  | root =>
      intro segment member
      cases member
  | ofText s => exact fun segment member => isName_of_mem_segmentsOf member
  | ofTexts texts =>
      intro segment member
      rcases List.mem_flatMap.mp member with ⟨s, -, found⟩
      exact isName_of_mem_segmentsOf found
  | append made s ih =>
      intro segment member
      rcases List.mem_append.mp member with old | new
      · exact ih segment old
      · exact isName_of_mem_segmentsOf new
  | parent made ih => exact fun segment member => ih segment ((List.dropLast_sublist _).mem member)

theorem ofTexts_segments {p : ScopePath} (normal : p.Normal) : ofTexts p.segments = p := by
  rcases p with ⟨segments⟩
  have kept : segments.flatMap segmentsOf = segments := by
    induction segments with
    | nil => rfl
    | cons segment rest ih =>
        rcases List.forall_mem_cons.mp normal with ⟨first, later⟩
        rw [List.flatMap_cons, segmentsOf_of_isName first, ih later, List.singleton_append]
  rw [ofTexts, kept]

theorem constructed_iff_normal (p : ScopePath) : Constructed p ↔ p.Normal := by
  constructor
  · exact Constructed.normal
  · intro normal
    rw [← ofTexts_segments normal]
    exact .ofTexts p.segments

end ScopePath

end BindingStore
