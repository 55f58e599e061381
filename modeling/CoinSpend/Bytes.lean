/-! Byte strings, byte strings of fixed length, and fixed-width integers in either
byte order. -/
namespace CoinSpend

abbrev Bytes := List UInt8

/-- A byte string whose length is part of its type. -/
structure Octets (n : Nat) where
  bytes : Bytes
  length_bytes : bytes.length = n
deriving DecidableEq

/-- The `width` low bytes of `value`, least significant first. -/
def littleEndian : Nat → Nat → Bytes
  | 0, _ => []
  | width + 1, value => UInt8.ofNat (value % 256) :: littleEndian width (value / 256)

def ofLittleEndian (bytes : Bytes) : Nat :=
  bytes.foldr (fun byte value => byte.toNat + 256 * value) 0

/-- The `width` low bytes of `value`, most significant first. -/
def bigEndian (width value : Nat) : Bytes := (littleEndian width value).reverse

def ofBigEndian (bytes : Bytes) : Nat :=
  bytes.foldl (fun value byte => 256 * value + byte.toNat) 0

/-- Moves `count` bytes from the front of `bytes` behind `taken`, which holds earlier ones last first. -/
def splitFrom (taken : Bytes) : Nat → Bytes → Option (Bytes × Bytes)
  | 0, bytes => some (taken.reverse, bytes)
  | _ + 1, [] => none
  | count + 1, byte :: bytes => splitFrom (byte :: taken) count bytes

/-- The first `count` bytes and the rest, if there are so many. -/
def split? (count : Nat) (bytes : Bytes) : Option (Bytes × Bytes) := splitFrom [] count bytes

theorem splitFrom_eq_some_iff {taken bytes first rest : Bytes} {count : Nat} :
    splitFrom taken count bytes = some (first, rest) ↔
      ∃ middle, middle.length = count ∧ first = taken.reverse ++ middle ∧ bytes = middle ++ rest := by
  induction count generalizing taken bytes with
  | zero =>
    simp only [splitFrom, Option.some.injEq, Prod.mk.injEq, List.length_eq_zero_iff]
    constructor
    · rintro ⟨rfl, rfl⟩; exact ⟨[], rfl, by simp, rfl⟩
    · rintro ⟨_, rfl, rfl, rfl⟩; simp
  | succ count ih =>
    cases bytes with
    | nil =>
      simp only [splitFrom, reduceCtorEq, false_iff]
      rintro ⟨middle, long, _, same⟩
      obtain ⟨rfl, _⟩ := List.append_eq_nil_iff.mp same.symm
      simp at long
    | cons byte bytes =>
      rw [splitFrom, ih]
      constructor
      · rintro ⟨middle, rfl, rfl, rfl⟩; exact ⟨byte :: middle, rfl, by simp, rfl⟩
      · rintro ⟨middle, long, rfl, same⟩
        cases middle with
        | nil => simp at long
        | cons head middle =>
          simp only [List.cons_append, List.cons.injEq] at same
          obtain ⟨rfl, rfl⟩ := same
          exact ⟨middle, by simpa using long, by simp, rfl⟩

theorem split?_eq_some_iff {bytes first rest : Bytes} {count : Nat} :
    split? count bytes = some (first, rest) ↔ first.length = count ∧ bytes = first ++ rest := by
  rw [split?, splitFrom_eq_some_iff]
  constructor
  · rintro ⟨middle, long, rfl, rfl⟩; exact ⟨by simpa using long, by simp⟩
  · rintro ⟨long, rfl⟩; exact ⟨first, long, by simp, rfl⟩

@[simp] theorem split?_append (first rest : Bytes) :
    split? first.length (first ++ rest) = some (first, rest) :=
  split?_eq_some_iff.mpr ⟨rfl, rfl⟩

@[simp] theorem length_littleEndian (width value : Nat) :
    (littleEndian width value).length = width := by
  induction width generalizing value with
  | zero => rfl
  | succ width ih => simp [littleEndian, ih]

@[simp] theorem length_bigEndian (width value : Nat) : (bigEndian width value).length = width := by
  simp [bigEndian]

/-- The UTF-8 bytes of characters. -/
def utf8 (text : List Char) : Bytes := text.flatMap String.utf8EncodeChar

namespace Octets

@[ext] theorem ext {n : Nat} {x y : Octets n} (same : x.bytes = y.bytes) : x = y := by
  cases x; cases y; simp_all

def ofBytes? (n : Nat) (bytes : Bytes) : Option (Octets n) :=
  if long : bytes.length = n then some ⟨bytes, long⟩ else none

theorem ofBytes?_eq_some_iff {n : Nat} {bytes : Bytes} {x : Octets n} :
    ofBytes? n bytes = some x ↔ bytes = x.bytes := by
  unfold ofBytes?
  constructor
  · intro made
    split at made
    · cases made
      rfl
    · cases made
  · rintro rfl
    rw [dif_pos x.length_bytes]

def zeros (n : Nat) : Octets n := ⟨List.replicate n 0, List.length_replicate⟩

instance {n : Nat} : Inhabited (Octets n) := ⟨zeros n⟩

/-- The same bytes in the opposite order: a hash as it is shown against a hash as it is sent. -/
def reverse {n : Nat} (x : Octets n) : Octets n :=
  ⟨x.bytes.reverse, by simp [x.length_bytes]⟩

/-- The big-endian value. -/
def toNat {n : Nat} (x : Octets n) : Nat := ofBigEndian x.bytes

/-- The `n` low bytes of `value`, most significant first. -/
def ofNat (n value : Nat) : Octets n := ⟨bigEndian n value, length_bigEndian n value⟩

@[simp] theorem reverse_reverse {n : Nat} (x : Octets n) : x.reverse.reverse = x := by
  ext1; simp [reverse]

def xor {n : Nat} (x y : Octets n) : Octets n :=
  ⟨List.zipWith (· ^^^ ·) x.bytes y.bytes, by simp [x.length_bytes, y.length_bytes]⟩

end Octets

end CoinSpend
