import BindingStore.ScopePath

/-! The digest of a path: the 64-bit FNV-1a hash of the bytes of its text. -/

namespace BindingStore

namespace Digest

def offset : UInt64 := 0xcbf29ce484222325

def prime : UInt64 := 0x100000001b3

def absorb (state : UInt64) (byte : UInt8) : UInt64 := (state ^^^ byte.toUInt64) * prime

def absorbAll (state : UInt64) (bytes : List UInt8) : UInt64 := bytes.foldl absorb state

theorem absorbAll_append (state : UInt64) (front back : List UInt8) :
    absorbAll state (front ++ back) = absorbAll (absorbAll state front) back :=
  List.foldl_append

end Digest

namespace ScopePath

def bytes (p : ScopePath) : List UInt8 := p.text.toList.flatMap String.utf8EncodeChar

def digest (p : ScopePath) : UInt64 := Digest.absorbAll Digest.offset p.bytes

end ScopePath

end BindingStore
