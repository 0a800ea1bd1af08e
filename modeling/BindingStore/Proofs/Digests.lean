import BindingStore.Proofs.ConstructedPaths
import BindingStore.ScopePath.Digest
import Mathlib.Logic.Function.Basic

/-! Collisions of digests. The prime is odd, so a state can be recovered from the one after it and
the byte between them, and no byte brings two states together. Paths whose texts differ in one byte
therefore never collide, and paths that collide go on to do so whatever is appended to both. -/

namespace BindingStore

namespace Digest

def primeInverse : UInt64 := 0xce965057aff6957b

/-- The state before a byte was absorbed. -/
def release (state : UInt64) (byte : UInt8) : UInt64 := state * primeInverse ^^^ byte.toUInt64

theorem prime_mul_primeInverse : prime * primeInverse = 1 := by decide

theorem primeInverse_mul_prime : primeInverse * prime = 1 := by decide

theorem release_absorb (state : UInt64) (byte : UInt8) :
    release (absorb state byte) byte = state := by
  rw [release, absorb, UInt64.mul_assoc, prime_mul_primeInverse, UInt64.mul_one, UInt64.xor_assoc,
    UInt64.xor_self, UInt64.xor_zero]

theorem absorb_release (state : UInt64) (byte : UInt8) :
    absorb (release state byte) byte = state := by
  rw [absorb, release, UInt64.xor_assoc, UInt64.xor_self, UInt64.xor_zero, UInt64.mul_assoc,
    primeInverse_mul_prime, UInt64.mul_one]

theorem absorb_bijective (byte : UInt8) : Function.Bijective fun state => absorb state byte := by
  apply Function.bijective_iff_has_inverse.mpr
  exact ⟨fun state => release state byte, fun state => release_absorb state byte,
    fun state => absorb_release state byte⟩

theorem absorb_injective (state : UInt64) : Function.Injective (absorb state) := by
  intro a b same
  have words : (state ^^^ a.toUInt64) * prime * primeInverse =
      (state ^^^ b.toUInt64) * prime * primeInverse := congrArg (· * primeInverse) same
  rw [UInt64.mul_assoc, UInt64.mul_assoc, prime_mul_primeInverse, UInt64.mul_one, UInt64.mul_one,
    UInt64.xor_right_inj] at words
  exact UInt8.toUInt64_inj.mp words

theorem absorbAll_bijective (bytes : List UInt8) :
    Function.Bijective fun state => absorbAll state bytes := by
  induction bytes with
  | nil => exact Function.bijective_id
  | cons byte bytes ih => exact ih.comp (absorb_bijective byte)

/-- The states part at the byte that differs, and the equal bytes after it keep them apart. -/
theorem absorbAll_ne_of_one_byte {a b : List UInt8} (sameLength : a.length = b.length)
    (one : ∃! i : Nat, a[i]? ≠ b[i]?) (state : UInt64) : absorbAll state a ≠ absorbAll state b := by
  induction a generalizing b state with
  | nil =>
      obtain ⟨i, differ, -⟩ := one
      obtain rfl : b = [] := List.length_eq_zero_iff.mp sameLength.symm
      exact absurd rfl differ
  | cons x a ih =>
      obtain ⟨y, b, rfl⟩ := List.exists_cons_of_length_eq_add_one sameLength.symm
      obtain ⟨i, differ, only⟩ := one
      by_cases heads : x = y
      · subst heads
        cases i with
        | zero => exact absurd rfl differ
        | succ i =>
            apply ih (Nat.succ.inj sameLength)
            refine ⟨i, differ, ?_⟩
            intro j other
            exact Nat.succ.inj (only (j + 1) other)
      · have first : 0 = i := only 0 (by simpa using heads)
        have tails : a = b := by
          apply List.ext_getElem?
          intro j
          by_contra other
          have later : j + 1 = i := only (j + 1) other
          omega
        subst tails
        intro same
        exact heads (absorb_injective state ((absorbAll_bijective a).injective same))

end Digest

namespace ScopePath

open Digest (absorbAll)
open Text (separator)

theorem toByteArray_bytes (p : ScopePath) : p.bytes.toByteArray = p.text.toByteArray :=
  String.utf8Encode_toList

theorem length_bytes (p : ScopePath) : p.bytes.length = p.text.utf8ByteSize := by
  rw [← List.size_toByteArray, toByteArray_bytes]
  rfl

theorem text_append {p : ScopePath} {s : String} (pSome : p.isRoot = false)
    (sSome : (ofText s).isRoot = false) :
    (p.append s).text = p.text ++ separator ++ (ofText s).text := by
  have front : p.segments ≠ [] := (isRoot_eq_false_iff p).mp pSome
  have back : (ofText s).segments ≠ [] := (isRoot_eq_false_iff _).mp sSome
  exact String.intercalate_append_of_ne_nil front back

theorem digest_append {p : ScopePath} {s : String} (pSome : p.isRoot = false)
    (sSome : (ofText s).isRoot = false) :
    (p.append s).digest = absorbAll p.digest
      (separator.toList.flatMap String.utf8EncodeChar ++ (ofText s).bytes) := by
  have parts : (p.append s).bytes =
      p.bytes ++ (separator.toList.flatMap String.utf8EncodeChar ++ (ofText s).bytes) := by
    rw [bytes, text_append pSome sSome, String.toList_append, String.toList_append,
      List.flatMap_append, List.flatMap_append, List.append_assoc]
    rfl
  calc
    (p.append s).digest = absorbAll Digest.offset (p.append s).bytes := rfl
    _ = absorbAll (absorbAll Digest.offset p.bytes)
        (separator.toList.flatMap String.utf8EncodeChar ++ (ofText s).bytes) := by
      rw [parts, Digest.absorbAll_append]
    _ = absorbAll p.digest
        (separator.toList.flatMap String.utf8EncodeChar ++ (ofText s).bytes) := rfl

theorem digest_append_inj {p q : ScopePath} (pSome : p.isRoot = false) (qSome : q.isRoot = false)
    (s : String) : (p.append s).digest = (q.append s).digest ↔ p.digest = q.digest := by
  by_cases none : (ofText s).segments = []
  · have kept (r : ScopePath) : r.append s = r := by
      rw [append, ← segments_ofText, none, List.append_nil]
    rw [kept, kept]
  · have sSome : (ofText s).isRoot = false := (isRoot_eq_false_iff _).mpr none
    rw [digest_append pSome sSome, digest_append qSome sSome]
    exact (Digest.absorbAll_bijective _).injective.eq_iff

/-- Paths whose texts have the same size and differ in one byte have different digests. Appending
the same text to two paths neither makes nor ends a collision: the digest of the longer path comes
from that of the path by absorbing a separator and the text of what was appended. -/
theorem digest_collisions :
    (∀ p q : ScopePath, p.text.utf8ByteSize = q.text.utf8ByteSize →
      (∃! i : Nat, p.bytes[i]? ≠ q.bytes[i]?) → p.digest ≠ q.digest) ∧
    (∀ p q : ScopePath, p.isRoot = false → q.isRoot = false → ∀ s,
      ((p.append s).digest = (q.append s).digest ↔ p.digest = q.digest)) ∧
    ∀ (p : ScopePath) (s : String), p.isRoot = false → (ofText s).isRoot = false →
      (p.append s).digest = absorbAll p.digest
        (separator.toList.flatMap String.utf8EncodeChar ++ (ofText s).bytes) := by
  refine ⟨?_, ?_, ?_⟩
  · intro p q sameSize one
    rw [← length_bytes, ← length_bytes] at sameSize
    exact Digest.absorbAll_ne_of_one_byte sameSize one Digest.offset
  · intro p q pSome qSome s
    exact digest_append_inj pSome qSome s
  · intro p s pSome sSome
    exact digest_append pSome sSome

theorem digest_collisions_letters :
    (ofText "a::f").text.utf8ByteSize = (ofText "a::g").text.utf8ByteSize ∧
      (∃! i : Nat, (ofText "a::f").bytes[i]? ≠ (ofText "a::g").bytes[i]?) ∧
      (ofText "a::f").isRoot = false ∧ (ofText "a::g").isRoot = false ∧
      (ofText " é:: b").isRoot = false ∧
      ((ofText "a::f").append " é:: b").digest ≠ ((ofText "a::g").append " é:: b").digest ∧
      ((ofText "a::f").append " é:: b").digest = absorbAll (ofText "a::f").digest
        (separator.toList.flatMap String.utf8EncodeChar ++ (ofText " é:: b").bytes) := by
  have sameSize : (ofText "a::f").text.utf8ByteSize = (ofText "a::g").text.utf8ByteSize := by decide
  have fBytes : (ofText "a::f").bytes = [0x61, 0x3a, 0x3a, 0x66] := by decide
  have gBytes : (ofText "a::g").bytes = [0x61, 0x3a, 0x3a, 0x67] := by decide
  have one : ∃! i : Nat, (ofText "a::f").bytes[i]? ≠ (ofText "a::g").bytes[i]? := by
    rw [fBytes, gBytes]
    refine ⟨3, by decide, ?_⟩
    intro i other
    match i with
    | 0 | 1 | 2 => exact absurd rfl other
    | 3 => rfl
    | _ + 4 => exact absurd rfl other
  have f : (ofText "a::f").isRoot = false := by decide
  have g : (ofText "a::g").isRoot = false := by decide
  have b : (ofText " é:: b").isRoot = false := by decide
  refine ⟨sameSize, one, f, g, b, ?_, digest_collisions.2.2 _ _ f b⟩
  intro same
  exact digest_collisions.1 _ _ sameSize one ((digest_collisions.2.1 _ _ f g " é:: b").mp same)

end ScopePath

end BindingStore
