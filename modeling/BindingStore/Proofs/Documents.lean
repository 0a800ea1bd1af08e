import BindingStore.Document.Entities
import Mathlib.Data.List.Nodup
import Mathlib.Data.List.Perm.Basic
import Mathlib.Logic.Function.Basic

namespace BindingStore

namespace Document

variable {fields : List (String × Document)} {d : Document}

theorem lookup_eq_some_of_mem {field : String × Document}
    (distinct : (fields.map Prod.fst).Nodup) (member : field ∈ fields) :
    fields.lookup field.1 = some field.2 := by
  rcases List.append_of_mem member with ⟨front, back, rfl⟩
  apply List.lookup_eq_some_iff.mpr
  refine ⟨front, back, rfl, ?_⟩
  intro earlier before
  rw [List.map_append, List.map_cons] at distinct
  have apart : earlier.1 ≠ field.1 := by
    intro same
    apply List.disjoint_of_nodup_append distinct (List.mem_map_of_mem before)
    rw [same]
    exact List.mem_cons_self
  exact bne_iff_ne.mpr apart.symm

/-- The same document, but for the order of its fields. -/
inductive Rearranged : Document → Document → Prop
  | refl (d : Document) : Rearranged d d
  | object {fields others : List (String × Document)} (moved : fields.Perm others) :
      Rearranged (.object fields) (.object others)

theorem Rearranged.exists_perm (moved : Rearranged (.object fields) d) :
    ∃ others, fields.Perm others ∧ d = .object others := by
  cases moved with
  | refl => exact ⟨fields, .refl fields, rfl⟩
  | object moved => exact ⟨_, moved, rfl⟩

variable {α : Type} {write : α → Document} {read : Reader α}

/-- Each value is read again from its document, also where the fields come back in another order,
and no two values have the same document, not even up to that order. -/
structure Lossless (write : α → Document) (read : Reader α) : Prop where
  readsBack : ∀ value, read (write value) = .ok value
  inAnyOrder : ∀ value d, (write value).Rearranged d → read d = .ok value
  tellsApart : ∀ a b, (write a).Rearranged (write b) ↔ a = b

theorem lossless_of_recorded {recordedBy : α → Document → Prop}
    (read_iff : ∀ d value, read d = .ok value ↔ recordedBy value d)
    (written : ∀ value d, (write value).Rearranged d → recordedBy value d) :
    Lossless write read := by
  have inAnyOrder (value : α) (d : Document) (moved : (write value).Rearranged d) :
      read d = .ok value := (read_iff d value).mpr (written value d moved)
  have readsBack (value : α) : read (write value) = .ok value := inAnyOrder value _ (.refl _)
  refine ⟨readsBack, inAnyOrder, ?_⟩
  intro a b
  constructor
  · intro moved
    have asFirst : read (write b) = .ok a := inAnyOrder a _ moved
    exact Except.ok.inj (asFirst.symm.trans (readsBack b))
  · rintro rfl
    exact .refl _

theorem Lossless.injective (lossless : Lossless write read) : Function.Injective write := by
  intro a b same
  apply (lossless.tellsApart a b).mp
  rw [same]
  exact .refl _

end Document

namespace RecordShape

variable {shape : RecordShape} {contents items : List Document}
  {fields : List (String × Document)} {d : Document}

/-- The document has these contents, under the names of the fields or one after the other. -/
def Holds (shape : RecordShape) (contents : List Document) : Document → Prop
  | .object fields => ∀ field ∈ shape.fields.zip contents, fields.lookup field.1 = some field.2
  | .array items => items = contents
  | _ => False

@[simp]
theorem holds_object : shape.Holds contents (.object fields) ↔
    ∀ field ∈ shape.fields.zip contents, fields.lookup field.1 = some field.2 :=
  Iff.rfl

@[simp]
theorem holds_array : shape.Holds contents (.array items) ↔ items = contents := Iff.rfl

/-- An object holds what was written into it in whatever order its fields are put. -/
theorem holds_of_rearranged (distinct : shape.fields.Nodup) (sized : shape.size = contents.length)
    (written : (Document.object (shape.fields.zip contents)).Rearranged d) :
    shape.Holds contents d := by
  obtain ⟨others, moved, rfl⟩ := written.exists_perm
  have names : ((shape.fields.zip contents).map Prod.fst).Nodup := by
    rw [List.map_fst_zip (Nat.le_of_eq sized)]
    exact distinct
  intro field member
  apply Document.lookup_eq_some_of_mem
  · exact (moved.map Prod.fst).nodup_iff.mp names
  · exact moved.mem_iff.mp member

end RecordShape

namespace ScopePath

def RecordedBy (p : ScopePath) (d : Document) : Prop :=
  shape.Holds [.array (p.segments.map .string)] d

@[simp]
theorem ofDocument_eq_ok_iff (d : Document) (p : ScopePath) :
    ofDocument d = .ok p ↔ p.RecordedBy d := by
  rcases p with ⟨segments⟩
  cases d with
  | object fields => simp [ofDocument, RecordedBy, shape]
  | array items =>
      rcases items with _ | ⟨first, _ | ⟨second, rest⟩⟩ <;>
        simp [ofDocument, RecordedBy, shape, RecordShape.size]
  | _ => simp [ofDocument, RecordedBy, RecordShape.Holds]

theorem recordedBy_of_rearranged {p : ScopePath} {d : Document}
    (written : p.toDocument.Rearranged d) : p.RecordedBy d :=
  RecordShape.holds_of_rearranged (by decide) rfl written

theorem lossless_toDocument : Document.Lossless toDocument ofDocument :=
  Document.lossless_of_recorded ofDocument_eq_ok_iff fun _ _ => recordedBy_of_rearranged

/-- The path with the same text in a single segment. -/
def flattened (p : ScopePath) : ScopePath := ⟨[p.text]⟩

theorem text_flattened (p : ScopePath) : p.flattened.text = p.text := String.intercalate_singleton

theorem flattened_eq_self_iff (p : ScopePath) : p.flattened = p ↔ p.length = 1 := by
  rcases p with ⟨segments⟩
  constructor
  · intro same
    rw [← same]
    rfl
  · intro single
    obtain ⟨segment, rfl⟩ := List.length_eq_one_iff.mp single
    rw [flattened, text, String.intercalate_singleton]

end ScopePath

namespace VarKind

def RecordedBy (k : VarKind) : Document → Prop
  | .string name => name = k.name
  | .object fields => fields = [(k.name, .null)]
  | _ => False

@[simp]
theorem ofDocument_eq_ok_iff (d : Document) (k : VarKind) :
    ofDocument d = .ok k ↔ k.RecordedBy d := by
  cases d with
  | string name => exact ofVariant_eq_ok_iff name k
  | object fields =>
      match fields with
      | [] => simp [ofDocument, RecordedBy]
      | [(name, content)] =>
          cases content <;> simp [ofDocument, RecordedBy, pure, Except.pure]
      | _ :: _ :: _ => simp [ofDocument, RecordedBy]
  | _ => simp [ofDocument, RecordedBy]

theorem recordedBy_of_rearranged {k : VarKind} {d : Document}
    (written : k.toDocument.Rearranged d) : k.RecordedBy d := by
  cases written
  rfl

theorem lossless_toDocument : Document.Lossless toDocument ofDocument :=
  Document.lossless_of_recorded ofDocument_eq_ok_iff fun _ _ => recordedBy_of_rearranged

end VarKind

namespace VarId

def RecordedBy (id : VarId) (d : Document) : Prop :=
  ∃ scope, shape.Holds [.string id.name, scope] d ∧ id.scope.RecordedBy scope

theorem ofDocument_eq_ok_iff (d : Document) (id : VarId) :
    ofDocument d = .ok id ↔ id.RecordedBy d := by
  rcases id with ⟨name, scope⟩
  cases d with
  | object fields =>
      simp [ofDocument, RecordedBy, shape, and_assoc]
  | array items =>
      rcases items with _ | ⟨first, _ | ⟨second, _ | ⟨third, rest⟩⟩⟩ <;>
        simp [ofDocument, RecordedBy, shape, RecordShape.size]
  | _ => simp [ofDocument, RecordedBy, RecordShape.Holds]

theorem recordedBy_of_rearranged {id : VarId} {d : Document}
    (written : id.toDocument.Rearranged d) : id.RecordedBy d := by
  refine ⟨id.scope.toDocument, ?_, ScopePath.recordedBy_of_rearranged (.refl _)⟩
  exact RecordShape.holds_of_rearranged (by decide) rfl written

theorem lossless_toDocument : Document.Lossless toDocument ofDocument :=
  Document.lossless_of_recorded ofDocument_eq_ok_iff fun _ _ => recordedBy_of_rearranged

def flattened (id : VarId) : VarId := ⟨id.text, .root⟩

theorem text_flattened (id : VarId) : id.flattened.text = id.text := rfl

theorem flattened_eq_self_iff (id : VarId) : id.flattened = id ↔ id.scope.isRoot = true := by
  rcases id with ⟨name, ⟨segments⟩⟩
  constructor
  · intro same
    rw [← same]
    rfl
  · intro global
    obtain rfl : segments = [] := List.isEmpty_iff.mp global
    rfl

end VarId

namespace TypeVar

def RecordedBy (v : TypeVar) (d : Document) : Prop :=
  ∃ scope kind, shape.Holds [.string v.id.name, scope, kind] d ∧
    v.id.scope.RecordedBy scope ∧ v.kind.RecordedBy kind

theorem ofDocument_eq_ok_iff (d : Document) (v : TypeVar) :
    ofDocument d = .ok v ↔ v.RecordedBy d := by
  rcases v with ⟨⟨name, scope⟩, kind⟩
  cases d with
  | object fields =>
      have read : ofDocument (.object fields) = .ok ⟨⟨name, scope⟩, kind⟩ ↔
          (∃ item, fields.lookup "kind" = some item ∧ kind.RecordedBy item) ∧
            fields.lookup "name" = some (.string name) ∧
            ∃ item, fields.lookup "scope" = some item ∧ scope.RecordedBy item := by
        simp [ofDocument]
      rw [read]
      -- The kind is read first and stands last, so the facts only have to change places.
      constructor
      · intro found
        obtain ⟨⟨kindItem, kindFound, kindRead⟩, nameFound, scopeItem, scopeFound, scopeRead⟩ :=
          found
        refine ⟨scopeItem, kindItem, ?_, scopeRead, kindRead⟩
        simp [shape, nameFound, scopeFound, kindFound]
      · intro recorded
        obtain ⟨scopeItem, kindItem, held, scopeRead, kindRead⟩ := recorded
        obtain ⟨nameFound, scopeFound, kindFound⟩ : fields.lookup "name" = some (.string name) ∧
            fields.lookup "scope" = some scopeItem ∧ fields.lookup "kind" = some kindItem := by
          simpa [shape] using held
        exact ⟨⟨kindItem, kindFound, kindRead⟩, nameFound, scopeItem, scopeFound, scopeRead⟩
  | array items =>
      rcases items with _ | ⟨first, _ | ⟨second, _ | ⟨third, _ | ⟨fourth, rest⟩⟩⟩⟩ <;>
        simp [ofDocument, RecordedBy, shape, RecordShape.size,
          and_assoc]
  | _ => simp [ofDocument, RecordedBy, RecordShape.Holds]

theorem recordedBy_of_rearranged {v : TypeVar} {d : Document}
    (written : v.toDocument.Rearranged d) : v.RecordedBy d := by
  refine ⟨v.id.scope.toDocument, v.kind.toDocument, ?_,
    ScopePath.recordedBy_of_rearranged (.refl _), VarKind.recordedBy_of_rearranged (.refl _)⟩
  exact RecordShape.holds_of_rearranged (by decide) rfl written

theorem lossless_toDocument : Document.Lossless toDocument ofDocument :=
  Document.lossless_of_recorded ofDocument_eq_ok_iff fun _ _ => recordedBy_of_rearranged

def flattened (v : TypeVar) : TypeVar := ⟨⟨v.text, .root⟩, .type⟩

theorem text_of_type (id : VarId) : text ⟨id, .type⟩ = id.text := String.empty_append

theorem text_flattened (v : TypeVar) : v.flattened.text = v.text := text_of_type ⟨v.text, .root⟩

theorem flattened_eq_self_iff (v : TypeVar) :
    v.flattened = v ↔ v.id.scope.isRoot = true ∧ v.kind = .type := by
  rcases v with ⟨id, kind⟩
  constructor
  · intro same
    rw [← same]
    exact ⟨rfl, rfl⟩
  · intro plain
    obtain ⟨global, rfl⟩ := plain
    have same : id.flattened = id := id.flattened_eq_self_iff.mpr global
    calc
      flattened ⟨id, .type⟩ = ⟨id.flattened, .type⟩ := by
        rw [flattened, text_of_type, VarId.flattened]
      _ = ⟨id, .type⟩ := by rw [same]

end TypeVar

/-- Documents lose nothing of paths, kinds, ids and variables, whatever stands in their names and
segments. They tell apart what texts do not: each path, id and variable has the text of one that is
a single name, and has its document only where it is a single name itself. -/
theorem documents_lose_nothing :
    (Document.Lossless ScopePath.toDocument ScopePath.ofDocument ∧
      Document.Lossless VarKind.toDocument VarKind.ofDocument ∧
      Document.Lossless VarId.toDocument VarId.ofDocument ∧
      Document.Lossless TypeVar.toDocument TypeVar.ofDocument) ∧
    (∀ p : ScopePath, p.flattened.text = p.text ∧
      (p.flattened.toDocument = p.toDocument ↔ p.length = 1)) ∧
    (∀ id : VarId, id.flattened.text = id.text ∧
      (id.flattened.toDocument = id.toDocument ↔ id.scope.isRoot = true)) ∧
    ∀ v : TypeVar, v.flattened.text = v.text ∧
      (v.flattened.toDocument = v.toDocument ↔ v.id.scope.isRoot = true ∧ v.kind = .type) := by
  refine ⟨⟨ScopePath.lossless_toDocument, VarKind.lossless_toDocument, VarId.lossless_toDocument,
    TypeVar.lossless_toDocument⟩, ?_, ?_, ?_⟩
  · intro p
    refine ⟨p.text_flattened, ?_⟩
    rw [ScopePath.lossless_toDocument.injective.eq_iff, ScopePath.flattened_eq_self_iff]
  · intro id
    refine ⟨id.text_flattened, ?_⟩
    rw [VarId.lossless_toDocument.injective.eq_iff, VarId.flattened_eq_self_iff]
  · intro v
    refine ⟨v.text_flattened, ?_⟩
    rw [TypeVar.lossless_toDocument.injective.eq_iff, TypeVar.flattened_eq_self_iff]

theorem documents_lose_nothing_padded :
    (TypeVar.toDocument ⟨⟨" a::b", ⟨["", "c:"]⟩⟩, .paramSpec⟩).Rearranged
      (.object
        [("kind", .string "ParamSpec"), ("name", .string " a::b"),
          ("scope", .object [("parts", .array [.string "", .string "c:"])])]) ∧
    TypeVar.ofDocument
      (.object
        [("kind", .string "ParamSpec"), ("name", .string " a::b"),
          ("scope", .object [("parts", .array [.string "", .string "c:"])])]) =
      .ok ⟨⟨" a::b", ⟨["", "c:"]⟩⟩, .paramSpec⟩ := by
  have moved : (TypeVar.toDocument ⟨⟨" a::b", ⟨["", "c:"]⟩⟩, .paramSpec⟩).Rearranged
      (.object
        [("kind", .string "ParamSpec"), ("name", .string " a::b"),
          ("scope", .object [("parts", .array [.string "", .string "c:"])])]) :=
    .object (List.perm_append_singleton _ [_, _])
  exact ⟨moved, documents_lose_nothing.1.2.2.2.inAnyOrder _ _ moved⟩

end BindingStore
