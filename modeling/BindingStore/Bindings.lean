/-! Bindings of keys to values. A key is bound once; keys stand in the order in which they were
first bound, and binding a key again replaces its value in place. -/

namespace BindingStore

variable {κ τ : Type}

namespace Entries

def keys (entries : List (κ × τ)) : List κ := entries.map Prod.fst

variable [DecidableEq κ]

def bind (key : κ) (value : τ) : List (κ × τ) → List (κ × τ)
  | [] => [(key, value)]
  | entry :: rest =>
    if entry.1 = key then (key, value) :: rest else entry :: bind key value rest

def find? (key : κ) : List (κ × τ) → Option τ
  | [] => none
  | entry :: rest => if entry.1 = key then some entry.2 else find? key rest

theorem keys_bind (key : κ) (value : τ) (entries : List (κ × τ)) :
    keys (bind key value entries) =
      if key ∈ keys entries then keys entries else keys entries ++ [key] := by
  induction entries with
  | nil => simp [keys, bind]
  | cons entry rest ih =>
    by_cases same : entry.1 = key
    · simp [keys, bind, same]
    · simp only [keys, bind, if_neg same, List.map_cons, List.mem_cons] at ih ⊢
      rw [ih]
      by_cases bound : key ∈ rest.map Prod.fst <;> simp [bound, Ne.symm same]

theorem find?_bind (key : κ) (value : τ) (entries : List (κ × τ)) (other : κ) :
    find? other (bind key value entries) = if other = key then some value else find? other entries := by
  induction entries with
  | nil => simp [bind, find?, eq_comm]
  | cons entry rest ih =>
    by_cases same : entry.1 = key
    · by_cases found : other = key
      · simp [bind, find?, same, found]
      · simp [bind, find?, same, found, Ne.symm found]
    · by_cases found : entry.1 = other
      · have apart : other ≠ key := fun equal => same (found.trans equal)
        simp [bind, find?, found, apart]
      · simp [bind, find?, same, found, ih]

theorem find?_eq_none_iff (key : κ) (entries : List (κ × τ)) :
    find? key entries = none ↔ key ∉ keys entries := by
  induction entries with
  | nil => simp [find?, keys]
  | cons entry rest ih =>
    by_cases same : entry.1 = key
    · simp [find?, keys, same]
    · simpa [find?, keys, same, Ne.symm same] using ih

theorem find?_eq_some_iff {key : κ} {value : τ} {entries : List (κ × τ)}
    (distinct : (keys entries).Nodup) :
    find? key entries = some value ↔ (key, value) ∈ entries := by
  induction entries with
  | nil => simp [find?]
  | cons entry rest ih =>
    obtain ⟨fresh, distinct⟩ := List.nodup_cons.mp distinct
    by_cases same : entry.1 = key
    · have absent (other : τ) : (key, other) ∉ rest := fun member =>
        fresh (same ▸ List.mem_map.mpr ⟨(key, other), member, rfl⟩)
      simp [find?, same, absent, Prod.ext_iff, eq_comm]
    · simp [find?, same, ih distinct, Prod.ext_iff, Ne.symm same]

theorem nodup_keys_bind (key : κ) (value : τ) {entries : List (κ × τ)}
    (distinct : (keys entries).Nodup) : (keys (bind key value entries)).Nodup := by
  rw [keys_bind]
  by_cases bound : key ∈ keys entries
  · simpa [bound] using distinct
  · simp only [if_neg bound]
    refine List.nodup_append.mpr ⟨distinct, by simp, fun x member y last => ?_⟩
    rw [List.mem_singleton.mp last]
    exact fun equal => bound (equal ▸ member)

end Entries

structure Bindings (κ τ : Type) where
  entries : List (κ × τ)
  distinct : (Entries.keys entries).Nodup

namespace Bindings

def empty : Bindings κ τ := ⟨[], List.nodup_nil⟩

def keys (b : Bindings κ τ) : List κ := Entries.keys b.entries

def size (b : Bindings κ τ) : Nat := b.entries.length

def isEmpty (b : Bindings κ τ) : Bool := b.entries.isEmpty

variable [DecidableEq κ]

def get? (b : Bindings κ τ) (key : κ) : Option τ := Entries.find? key b.entries

def insert (b : Bindings κ τ) (key : κ) (value : τ) : Bindings κ τ :=
  ⟨Entries.bind key value b.entries, Entries.nodup_keys_bind key value b.distinct⟩

/-- Equality as maps: the order of the keys does not count. -/
def agrees [DecidableEq τ] (a b : Bindings κ τ) : Bool :=
  a.size = b.size && a.entries.all fun entry => b.get? entry.1 = some entry.2

@[simp]
theorem get?_empty (key : κ) : (empty : Bindings κ τ).get? key = none := rfl

theorem get?_insert (b : Bindings κ τ) (key : κ) (value : τ) (other : κ) :
    (b.insert key value).get? other = if other = key then some value else b.get? other :=
  Entries.find?_bind key value b.entries other

theorem keys_insert (b : Bindings κ τ) (key : κ) (value : τ) :
    (b.insert key value).keys = if key ∈ b.keys then b.keys else b.keys ++ [key] :=
  Entries.keys_bind key value b.entries

theorem get?_eq_some_iff {b : Bindings κ τ} {key : κ} {value : τ} :
    b.get? key = some value ↔ (key, value) ∈ b.entries :=
  Entries.find?_eq_some_iff b.distinct

theorem get?_eq_none_iff (b : Bindings κ τ) (key : κ) : b.get? key = none ↔ key ∉ b.keys :=
  Entries.find?_eq_none_iff key b.entries

end Bindings

end BindingStore
