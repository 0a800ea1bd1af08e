import BindingStore.Proofs.Delimiting
import BindingStore.Solution

namespace BindingStore

namespace Text

/-- A quoted text, `hidden` being the characters written by their code points. -/
def quotedBy (hidden : Char → Bool) (s : String) : String := String.ofList (quote hidden s.toList)

def tableText (hidden : Char → Bool) (entries : List (String × String)) : String :=
  Layout.line.table (entries.map fun (name, value) => (quotedBy hidden name, quotedBy hidden value))

def arrayText (hidden : Char → Bool) (tables : List (List (String × String))) : String :=
  Layout.line.array (tables.map (tableText hidden))

def entryCode (hidden : Char → Bool) (entry : String × String) : List Char :=
  quote hidden entry.1.toList ++ ([':', ' '] ++ quote hidden entry.2.toList)

def tableCode (hidden : Char → Bool) : List (String × String) → List Char :=
  bracketed '\x7b' '\x7d' (entryCode hidden)

def arrayCode (hidden : Char → Bool) : List (List (String × String)) → List Char :=
  bracketed '[' ']' (tableCode hidden)

theorem toList_bracketLine (opening closing : String) (items : List String) :
    (bracketLine opening items closing).toList =
      opening.toList ++ [',', ' '].intercalate (items.map String.toList) ++ closing.toList := by
  rw [bracketLine, String.toList_append, String.toList_append, String.toList_intercalate]
  rfl

theorem toList_tableText (hidden : Char → Bool) (entries : List (String × String)) :
    (tableText hidden entries).toList = tableCode hidden entries := by
  have items : (fields (entries.map fun (name, value) =>
      (quotedBy hidden name, quotedBy hidden value))).map String.toList =
        entries.map (entryCode hidden) := by
    rw [fields, List.map_map, List.map_map]
    apply List.map_congr_left
    intro entry _
    simp [field, quotedBy, entryCode]
  rw [tableText, Layout.table, toList_bracketLine, items]
  rfl

theorem toList_arrayText (hidden : Char → Bool) (tables : List (List (String × String))) :
    (arrayText hidden tables).toList = arrayCode hidden tables := by
  have items : (tables.map (tableText hidden)).map String.toList =
      tables.map (tableCode hidden) := by
    rw [List.map_map]
    apply List.map_congr_left
    intro entries _
    exact toList_tableText hidden entries
  rw [arrayText, Layout.array, toList_bracketLine, items]
  rfl

theorem selfDelimiting_tableCode (hidden : Char → Bool) : SelfDelimiting (tableCode hidden) := by
  have quotes : SelfDelimiting fun s : String => quote hidden s.toList :=
    (selfDelimiting_quote hidden).comp fun _ _ => String.toList_injective
  have entries : SelfDelimiting (entryCode hidden) := quotes.pair (quotes.after [':', ' '])
  have avoids : Avoids (entryCode hidden) '\x7d' := fun entry => ⟨'"', _, rfl, by decide⟩
  exact entries.bracketed '\x7b' avoids (by decide)

theorem selfDelimiting_arrayCode (hidden : Char → Bool) : SelfDelimiting (arrayCode hidden) := by
  have avoids : Avoids (tableCode hidden) ']' := avoids_bracketed (by decide) _ _
  exact (selfDelimiting_tableCode hidden).bracketed '[' avoids (by decide)

theorem tableText_injective (hidden : Char → Bool) : Function.Injective (tableText hidden) := by
  intro entries others same
  apply (selfDelimiting_tableCode hidden).injective
  rw [← toList_tableText, ← toList_tableText, same]

theorem arrayText_injective (hidden : Char → Bool) : Function.Injective (arrayText hidden) := by
  intro tables others same
  apply (selfDelimiting_arrayCode hidden).injective
  rw [← toList_arrayText, ← toList_arrayText, same]

example : tableText isHidden [("T", "a\", \"U\": \"b")] ≠ tableText isHidden [("T", "a"), ("U", "b")] := by
  decide

end Text

variable {τ : Type} [Bindable τ]

namespace BindingSet

def texts (s : BindingSet τ) : List (String × String) :=
  s.toList.map fun (id, type) => (id.text, Bindable.text type)

def shownBy (hidden : Char → Bool) (s : BindingSet τ) : String := Text.tableText hidden s.texts

theorem shown_eq_shownBy (s : BindingSet τ) : s.shown = s.shownBy Text.isHidden := by
  rw [shownBy, Text.tableText, texts, List.map_map]
  rfl

end BindingSet

namespace Solution

def SameTexts (a b : Solution τ) : Prop :=
  a.size = b.size ∧ ∀ (index : Nat) (set other : BindingSet τ),
    a.sets[index]? = some set → b.sets[index]? = some other → set.texts = other.texts

def shownBy (hidden : Char → Bool) (s : Solution τ) : String :=
  Text.arrayText hidden (s.sets.map BindingSet.texts)

theorem shown_eq_shownBy (s : Solution τ) : s.shown = s.shownBy Text.isHidden := by
  have texts : s.sets.map (BindingSet.display .line) =
      (s.sets.map BindingSet.texts).map (Text.tableText Text.isHidden) := by
    rw [List.map_map]
    exact List.map_congr_left fun set _ => set.shown_eq_shownBy
  rw [shownBy, Text.arrayText, ← texts]
  rfl

theorem sameTexts_iff (a b : Solution τ) :
    a.SameTexts b ↔ a.sets.map BindingSet.texts = b.sets.map BindingSet.texts := by
  constructor
  · intro same
    obtain ⟨size, texts⟩ := same
    rw [Solution.size, Solution.size] at size
    apply List.ext_getElem (by simpa using size)
    intro index first second
    rw [List.length_map] at first second
    rw [List.getElem_map, List.getElem_map]
    exact texts index _ _ (List.getElem?_eq_getElem first) (List.getElem?_eq_getElem second)
  · intro same
    refine ⟨by simpa [Solution.size] using congrArg List.length same, ?_⟩
    intro index set other found opposite
    have place := congrArg (fun texts => texts[index]?) same
    simpa [found, opposite] using place

end Solution

/-- Two sets display alike where they show the same texts of ids and types in the same order, and
two solutions where their sets do one by one. The characters that are written by their code points
may be these or any others. -/
theorem displays_unambiguous :
    (∀ a b : BindingSet τ, a.shown = b.shown ↔ a.texts = b.texts) ∧
    (∀ a b : Solution τ, a.shown = b.shown ↔ a.SameTexts b) ∧
    ∀ hidden : Char → Bool,
      (∀ a b : BindingSet τ, a.shownBy hidden = b.shownBy hidden ↔ a.texts = b.texts) ∧
      ∀ a b : Solution τ, a.shownBy hidden = b.shownBy hidden ↔ a.SameTexts b := by
  have sets (hidden : Char → Bool) (a b : BindingSet τ) :
      a.shownBy hidden = b.shownBy hidden ↔ a.texts = b.texts :=
    (Text.tableText_injective hidden).eq_iff
  have solutions (hidden : Char → Bool) (a b : Solution τ) :
      a.shownBy hidden = b.shownBy hidden ↔ a.SameTexts b := by
    rw [Solution.sameTexts_iff]
    exact (Text.arrayText_injective hidden).eq_iff
  refine ⟨?_, ?_, fun hidden => ⟨sets hidden, solutions hidden⟩⟩
  · intro a b
    rw [a.shown_eq_shownBy, b.shown_eq_shownBy, sets]
  · intro a b
    rw [a.shown_eq_shownBy, b.shown_eq_shownBy, solutions]

end BindingStore
