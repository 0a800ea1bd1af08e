import BindingStore.Text.Layout
import BindingStore.Text.Quoted
import Mathlib.Data.List.TakeWhile
import Mathlib.Logic.Function.Basic

/-! Self-delimiting codes. A quoted text shows where it ends, whatever it holds and whatever comes
after it, and so does a bracketed list of words that do. Nothing else can therefore be read from what
is written in quotes and brackets than what was meant. -/

namespace BindingStore.Text

variable {α β : Type}

/-- A text that starts with the word of some value starts with no other word, and the rest of the
text is known too. -/
def SelfDelimiting (code : α → List Char) : Prop :=
  ∀ a b x y, code a ++ x = code b ++ y → a = b ∧ x = y

/-- No word is empty or starts with this character. -/
def Avoids (code : α → List Char) (c : Char) : Prop :=
  ∀ a, ∃ first rest, code a = first :: rest ∧ first ≠ c

namespace SelfDelimiting

variable {code : α → List Char}

theorem injective (delimiting : SelfDelimiting code) : Function.Injective code := by
  intro a b same
  exact (delimiting a b [] [] (by rw [same])).1

theorem of_read {read : List Char → Option (α × List Char)}
    (reads : ∀ a rest, read (code a ++ rest) = some (a, rest)) : SelfDelimiting code := by
  intro a b x y same
  have pair : (a, x) = (b, y) := by
    apply Option.some.inj
    rw [← reads a x, ← reads b y, same]
  exact Prod.mk.inj pair

theorem comp (delimiting : SelfDelimiting code) {f : β → α} (injective : Function.Injective f) :
    SelfDelimiting fun b => code (f b) := by
  intro a b x y same
  obtain ⟨equal, rest⟩ := delimiting (f a) (f b) x y same
  exact ⟨injective equal, rest⟩

theorem after (delimiting : SelfDelimiting code) (front : List Char) :
    SelfDelimiting fun a => front ++ code a := by
  intro a b x y same
  rw [List.append_assoc, List.append_assoc] at same
  exact delimiting a b x y (List.append_cancel_left same)

theorem pair (delimiting : SelfDelimiting code) {other : β → List Char}
    (second : SelfDelimiting other) : SelfDelimiting fun p : α × β => code p.1 ++ other p.2 := by
  intro p q x y same
  simp only [List.append_assoc] at same
  obtain ⟨first, rest⟩ := delimiting p.1 q.1 _ _ same
  obtain ⟨last, tail⟩ := second p.2 q.2 x y rest
  exact ⟨Prod.ext first last, tail⟩

theorem ne_closing {closing : Char} (avoids : Avoids code closing) (a : α) (x y : List Char) :
    code a ++ x ≠ closing :: y := by
  obtain ⟨first, rest, word, apart⟩ := avoids a
  rw [word]
  intro same
  exact apart (List.cons.inj same).1

theorem closed (delimiting : SelfDelimiting code) {closing : Char} (avoids : Avoids code closing) :
    SelfDelimiting fun values : List α => values.flatMap code ++ [closing] := by
  intro values others x y same
  induction values generalizing others with
  | nil =>
      cases others with
      | nil => simpa using same
      | cons b others =>
          simp only [List.flatMap_nil, List.flatMap_cons, List.append_assoc] at same
          exact absurd same.symm (ne_closing avoids b _ x)
  | cons a values ih =>
      simp only [List.flatMap_cons, List.append_assoc] at same
      cases others with
      | nil => exact absurd same (ne_closing avoids a _ y)
      | cons b others =>
          simp only [List.flatMap_cons, List.append_assoc] at same
          obtain ⟨rfl, later⟩ := delimiting a b _ _ same
          obtain ⟨rfl, rest⟩ := ih others (by simpa only [List.append_assoc] using later)
          exact ⟨rfl, rest⟩

end SelfDelimiting

def bracketed (opening closing : Char) (code : α → List Char) (values : List α) : List Char :=
  opening :: ([',', ' '].intercalate (values.map code) ++ [closing])

def continued (closing : Char) (code : α → List Char) (values : List α) : List Char :=
  (values.flatMap fun a => [',', ' '] ++ code a) ++ [closing]

theorem bracketed_nil_append (opening closing : Char) (code : α → List Char) (x : List Char) :
    bracketed opening closing code [] ++ x = opening :: closing :: x := rfl

theorem bracketed_cons_append (opening closing : Char) (code : α → List Char) (a : α)
    (values : List α) (x : List Char) :
    bracketed opening closing code (a :: values) ++ x =
      opening :: (code a ++ (continued closing code values ++ x)) := by
  have words : [',', ' '].intercalate ((a :: values).map code) =
      code a ++ values.flatMap fun b => [',', ' '] ++ code b := by
    induction values generalizing a with
    | nil => simp
    | cons b values ih =>
        rw [List.map_cons, List.map_cons, List.intercalate_cons_cons, ← List.map_cons, ih,
          List.flatMap_cons, List.append_assoc, List.append_assoc]
  rw [bracketed, words, continued]
  simp only [List.cons_append, List.append_assoc]

theorem SelfDelimiting.bracketed {code : α → List Char} (delimiting : SelfDelimiting code)
    (opening : Char) {closing : Char} (avoids : Avoids code closing) (comma : ',' ≠ closing) :
    SelfDelimiting (bracketed opening closing code) := by
  have later : SelfDelimiting (continued closing code) :=
    (delimiting.after [',', ' ']).closed fun a => ⟨',', ' ' :: code a, rfl, comma⟩
  intro values others x y same
  cases values with
  | nil =>
      cases others with
      | nil => simpa [bracketed_nil_append] using same
      | cons b others =>
          rw [bracketed_nil_append, bracketed_cons_append] at same
          exact absurd (List.cons.inj same).2.symm (ne_closing avoids b _ x)
  | cons a values =>
      rw [bracketed_cons_append] at same
      cases others with
      | nil => exact absurd (List.cons.inj same).2 (ne_closing avoids a _ y)
      | cons b others =>
          rw [bracketed_cons_append] at same
          obtain ⟨rfl, rest⟩ := delimiting a b _ _ (List.cons.inj same).2
          obtain ⟨rfl, tail⟩ := later values others x y rest
          exact ⟨rfl, tail⟩

theorem avoids_bracketed {opening c : Char} (apart : opening ≠ c) (closing : Char)
    (code : α → List Char) : Avoids (bracketed opening closing code) c :=
  fun _ => ⟨opening, _, rfl, apart⟩

def digitValue (c : Char) : Nat :=
  if c.isDigit then c.toNat - '0'.toNat else c.toNat - 'a'.toNat + 10

def hexValue (digits : List Char) : Nat :=
  digits.foldl (fun value c => 16 * value + digitValue c) 0

theorem digitValue_digitChar {d : Nat} (bound : d < 16) : digitValue d.digitChar = d := by
  have all : ∀ d : Fin 16, digitValue d.val.digitChar = d.val := by decide
  exact all ⟨d, bound⟩

theorem hexValue_toDigits (n : Nat) : hexValue (Nat.toDigits 16 n) = n := by
  induction n using Nat.strongRecOn with
  | ind n ih =>
      rw [Nat.toDigits_eq_if (by decide)]
      by_cases small : n < 16
      · simp [small, hexValue, digitValue_digitChar small]
      · have front := ih (n / 16) (by omega)
        have last : digitValue (n % 16).digitChar = n % 16 := digitValue_digitChar (by omega)
        rw [if_neg small, hexValue, List.foldl_append, ← hexValue, front, List.foldl_cons,
          List.foldl_nil, last]
        omega

theorem ne_brace_of_mem_toDigits {n : Nat} {c : Char} (member : c ∈ Nat.toDigits 16 n) :
    c ≠ '\x7d' := by
  have digit {d : Nat} (bound : d < 16) : d.digitChar ≠ '\x7d' := by
    have all : ∀ d : Fin 16, d.val.digitChar ≠ '\x7d' := by decide
    exact all ⟨d, bound⟩
  induction n using Nat.strongRecOn with
  | ind n ih =>
      rw [Nat.toDigits_eq_if (by decide)] at member
      by_cases small : n < 16
      · rw [if_pos small, List.mem_singleton] at member
        exact member ▸ digit small
      · rw [if_neg small, List.mem_append, List.mem_singleton] at member
        rcases member with front | last
        · exact ih (n / 16) (by omega) front
        · exact last ▸ digit (by omega)

def ofMark? : Char → Option Char
  | '0' => some '\x00'
  | 't' => some '\t'
  | 'r' => some '\r'
  | 'n' => some '\n'
  | '"' => some '"'
  | '\\' => some '\\'
  | _ => none

/-- Reads the form of one character, and gives what comes after it. -/
def unescape? : List Char → Option (Char × List Char)
  | [] => none
  | '\\' :: 'u' :: '\x7b' :: rest =>
    let digits := rest.takeWhile (· ≠ '\x7d')
    some (.ofNat (hexValue digits), rest.drop (digits.length + 1))
  | '\\' :: mark :: rest => (ofMark? mark).map fun c => (c, rest)
  | c :: rest => some (c, rest)

theorem unescape?_cons_of_ne {c : Char} (apart : c ≠ '\\') (rest : List Char) :
    unescape? (c :: rest) = some (c, rest) := by
  rw [unescape?.eq_4]
  · intro tail backslash _
    exact apart backslash
  · intro mark tail backslash _
    exact apart backslash

theorem takeWhile_toDigits (n : Nat) (rest : List Char) :
    (Nat.toDigits 16 n ++ '\x7d' :: rest).takeWhile (· ≠ '\x7d') = Nat.toDigits 16 n := by
  rw [List.takeWhile_append_of_pos, List.takeWhile_cons_of_neg (by simp), List.append_nil]
  intro c member
  simpa using ne_brace_of_mem_toDigits member

theorem unescape?_escape (hidden : Char → Bool) (c : Char) (rest : List Char) :
    unescape? (escape hidden c ++ rest) = some (c, rest) := by
  fun_cases escape hidden c with
  | case1 | case2 | case3 | case4 | case5 | case6 => rfl
  | case7 c _ _ _ _ _ _ isHidden =>
      have word : ['\\', 'u', '\x7b'] ++ Nat.toDigits 16 c.toNat ++ ['\x7d'] ++ rest =
          '\\' :: 'u' :: '\x7b' :: (Nat.toDigits 16 c.toNat ++ '\x7d' :: rest) := by
        simp
      rw [word, unescape?, takeWhile_toDigits, hexValue_toDigits, Char.ofNat_toNat]
      simp
  | case8 c _ _ _ _ _ backslash _ => exact unescape?_cons_of_ne backslash rest

theorem avoids_escape (hidden : Char → Bool) : Avoids (escape hidden) '"' := by
  intro c
  fun_cases escape hidden c with
  | case1 | case2 | case3 | case4 | case5 | case6 | case7 => exact ⟨'\\', _, rfl, by decide⟩
  | case8 c _ _ _ _ quotation _ _ => exact ⟨c, [], rfl, quotation⟩

theorem selfDelimiting_quote (hidden : Char → Bool) : SelfDelimiting (quote hidden) :=
  ((SelfDelimiting.of_read (unescape?_escape hidden)).closed (avoids_escape hidden)).after ['"']

end BindingStore.Text
