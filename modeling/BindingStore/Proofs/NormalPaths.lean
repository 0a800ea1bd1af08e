import BindingStore.Proofs.ConstructedPaths
import BindingStore.Recipe

/-! The paths that can be made, whether by constructors or by recipes: those of names. Each of them
is read from one text too, which sets a blank between a segment and the separator after it and so
leaves to the segment a colon that ends it. -/

namespace BindingStore

namespace Text

theorem isSeparated_concat_blank {s : List Char} (single : isSeparated s = false) :
    isSeparated (s ++ [' ']) = false := by
  rw [← Bool.not_eq_true, isSeparated_iff_isInfix] at single ⊢
  intro separator
  rcases List.infix_concat_iff.mp separator with last | inside
  · obtain ⟨front, split⟩ := last
    have ends := congrArg List.getLast? split
    simp at ends
  · exact single inside

theorem trim_concat_blank {s : List Char} (word : IsWord s) : trim (s ++ [' ']) = s := by
  have opened : trimStart (s ++ [' ']) = s ++ [' '] := by
    apply (trimStart_eq_self_iff _).mpr
    intro c head
    rw [List.head?_append_of_ne_nil s word.nonempty] at head
    exact ((trim_eq_self_iff s).mp word.trimmed).1 c head
  have closed : trimEnd s = s :=
    (trimEnd_eq_self_iff s).mpr ((trim_eq_self_iff s).mp word.trimmed).2
  calc
    trim (s ++ [' ']) = trimEnd (s ++ [' ']) := by rw [trim, opened]
    _ = trimEnd s := List.rdropWhile_concat_pos isBlank s ' ' (by decide)
    _ = s := closed

def spaced (texts : List (List Char)) : List Char := [' ', ':', ':'].intercalate texts

theorem spaced_cons_of_ne_nil (s : List Char) {rest : List (List Char)} (more : rest ≠ []) :
    spaced (s :: rest) = (s ++ [' ']) ++ ':' :: ':' :: spaced rest := by
  rw [spaced, List.intercalate_cons_of_ne_nil more, List.append_assoc, List.append_assoc]
  rfl

/-- Spaced words read back as they are, whatever colons they start or end with. -/
theorem words_spaced {texts : List (List Char)} (isWord : ∀ text ∈ texts, IsWord text) :
    words (spaced texts) = texts := by
  induction texts with
  | nil => exact words_nil
  | cons word rest ih =>
      rcases List.forall_mem_cons.mp isWord with ⟨first, later⟩
      by_cases last : rest = []
      · subst last
        rw [spaced, List.intercalate_singleton, words_of_isWord first]
      · have single : isSeparated (word ++ [' ']) = false := isSeparated_concat_blank first.single
        have apart : isSeparated ((word ++ [' ']) ++ [':']) = false := by
          apply (isSeparated_append_colon_iff _).mpr
          refine ⟨single, ?_⟩
          simp
        have read : words (word ++ [' ']) = [word] := by
          rw [words_of_single single, trim_concat_blank first, if_neg first.nonempty]
        rw [spaced_cons_of_ne_nil word last, words_append_separator apart, read, ih later,
          List.singleton_append]

end Text

namespace PathRecipe

/-- Whether a recipe starts from texts. What it appends may come from anywhere, a document too. -/
def IsTextual : PathRecipe → Prop
  | .root => True
  | .text _ => True
  | .texts _ => True
  | .document _ => False
  | .moved start _ => start.IsTextual

theorem constructed_of_apply {p q : ScopePath} (made : p.Constructed) {move : PathMove}
    (moved : move.apply p = .ok q) : q.Constructed := by
  cases move with
  | parent =>
      cases moved
      exact .parent made
  | append suffix =>
      rw [PathMove.apply] at moved
      obtain ⟨s, -, appended⟩ := bind_eq_ok_iff.mp moved
      cases appended
      exact .append made s

theorem constructed_of_make {r : PathRecipe} (textual : r.IsTextual) {p : ScopePath}
    (made : r.make = .ok p) : p.Constructed := by
  fun_induction IsTextual r generalizing p with
  | case1 =>
      cases made
      exact .root
  | case2 s =>
      cases made
      exact .ofText s
  | case3 parts =>
      cases made
      exact .ofTexts parts
  | case4 d => exact textual.elim
  | case5 start move ih =>
      rw [make] at made
      obtain ⟨first, found, moved⟩ := bind_eq_ok_iff.mp made
      exact constructed_of_apply (ih textual found) moved

theorem exists_make_of_constructed {p : ScopePath} (made : p.Constructed) :
    ∃ r : PathRecipe, r.IsTextual ∧ r.make = .ok p := by
  induction made with
  | root => exact ⟨.root, True.intro, rfl⟩
  | ofText s => exact ⟨.text s, True.intro, rfl⟩
  | ofTexts texts => exact ⟨.texts texts, True.intro, rfl⟩
  | append made s ih =>
      obtain ⟨r, textual, make⟩ := ih
      refine ⟨.moved r (.append (.text s)), textual, ?_⟩
      rw [PathRecipe.make, make]
      rfl
  | parent made ih =>
      obtain ⟨r, textual, make⟩ := ih
      refine ⟨.moved r .parent, textual, ?_⟩
      rw [PathRecipe.make, make]
      rfl

end PathRecipe

namespace ScopePath

open Text (spaced words)

def spacedText (p : ScopePath) : String := " ::".intercalate p.segments

theorem toList_spacedText (p : ScopePath) :
    p.spacedText.toList = spaced (p.segments.map String.toList) :=
  String.toList_intercalate

theorem ofText_spacedText {p : ScopePath} (normal : p.Normal) : ofText p.spacedText = p := by
  have read : words (spaced (p.segments.map String.toList)) = p.segments.map String.toList :=
    Text.words_spaced ((normal_iff_isWord p).mp normal)
  rcases p with ⟨segments⟩
  rw [ofText, segmentsOf_eq_words, toList_spacedText, read]
  simp

example : ofText (spacedText ⟨["a:", ":", ":b"]⟩) = ⟨["a:", ":", ":b"]⟩ := by decide

theorem exists_ofText_iff_normal (p : ScopePath) : (∃ s, ofText s = p) ↔ p.Normal := by
  constructor
  · intro read
    obtain ⟨s, same⟩ := read
    rw [← same]
    exact (Constructed.ofText s).normal
  · intro normal
    exact ⟨p.spacedText, ofText_spacedText normal⟩

theorem exists_make_iff_normal (p : ScopePath) :
    (∃ r : PathRecipe, r.IsTextual ∧ r.make = .ok p) ↔ p.Normal := by
  rw [← constructed_iff_normal]
  constructor
  · intro made
    obtain ⟨r, textual, make⟩ := made
    exact PathRecipe.constructed_of_make textual make
  · exact PathRecipe.exists_make_of_constructed

theorem normal_ofTexts (texts : List String) : (ofTexts texts).Normal :=
  (Constructed.ofTexts texts).normal

/-- However paths are made from texts, they are the paths of names, and reading a single text makes
any of them. Reading the segments of a path one by one keeps the path where they are names, and
leaves nothing for a second reading to change. -/
theorem made_iff_normal (p : ScopePath) :
    (Constructed p ↔ p.Normal) ∧
      ((∃ r : PathRecipe, r.IsTextual ∧ r.make = .ok p) ↔ p.Normal) ∧
      ((∃ s, ofText s = p) ↔ p.Normal) ∧
      (ofTexts p.segments = p ↔ p.Normal) ∧
      ofTexts (ofTexts p.segments).segments = ofTexts p.segments := by
  refine ⟨constructed_iff_normal p, exists_make_iff_normal p, exists_ofText_iff_normal p, ?_, ?_⟩
  · constructor
    · intro kept
      rw [← kept]
      exact normal_ofTexts p.segments
    · exact ofTexts_segments
  · exact ofTexts_segments (normal_ofTexts p.segments)

end ScopePath

end BindingStore
