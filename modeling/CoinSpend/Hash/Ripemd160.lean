import CoinSpend.Hash.Padding

/-! RIPEMD-160: two lines of eighty steps over the same sixteen words, combined at the end. -/
namespace CoinSpend.Ripemd160

/-- The five chaining words. -/
structure Chain where
  a : UInt32
  b : UInt32
  c : UInt32
  d : UInt32
  e : UInt32

def initial : Chain := ⟨0x67452301, 0xefcdab89, 0x98badcfe, 0x10325476, 0xc3d2e1f0⟩

/-- Which word of the block each step of the left line adds. -/
def leftWords : Array Nat :=
  #[0, 1, 2, 3, 4, 5, 6, 7, 8, 9, 10, 11, 12, 13, 14, 15,
    7, 4, 13, 1, 10, 6, 15, 3, 12, 0, 9, 5, 2, 14, 11, 8,
    3, 10, 14, 4, 9, 15, 8, 1, 2, 7, 0, 6, 13, 11, 5, 12,
    1, 9, 11, 10, 0, 8, 12, 4, 13, 3, 7, 15, 14, 5, 6, 2,
    4, 0, 5, 9, 7, 12, 2, 10, 14, 1, 3, 8, 11, 6, 15, 13]

def rightWords : Array Nat :=
  #[5, 14, 7, 0, 9, 2, 11, 4, 13, 6, 15, 8, 1, 10, 3, 12,
    6, 11, 3, 7, 0, 13, 5, 10, 14, 15, 8, 12, 4, 9, 1, 2,
    15, 5, 1, 3, 7, 14, 6, 9, 11, 8, 12, 2, 10, 0, 4, 13,
    8, 6, 4, 1, 3, 11, 15, 0, 5, 12, 2, 13, 9, 7, 10, 14,
    12, 15, 10, 4, 1, 5, 8, 7, 6, 2, 13, 14, 0, 3, 9, 11]

/-- By how many bits each step of the left line rotates. -/
def leftShifts : Array UInt32 :=
  #[11, 14, 15, 12, 5, 8, 7, 9, 11, 13, 14, 15, 6, 7, 9, 8,
    7, 6, 8, 13, 11, 9, 7, 15, 7, 12, 15, 9, 11, 7, 13, 12,
    11, 13, 6, 7, 14, 9, 13, 15, 14, 8, 13, 6, 5, 12, 7, 5,
    11, 12, 14, 15, 14, 15, 9, 8, 9, 14, 5, 6, 8, 6, 5, 12,
    9, 15, 5, 11, 6, 8, 13, 12, 5, 12, 13, 14, 11, 8, 5, 6]

def rightShifts : Array UInt32 :=
  #[8, 9, 9, 11, 13, 15, 15, 5, 7, 7, 8, 11, 14, 14, 12, 6,
    9, 13, 15, 7, 12, 8, 9, 11, 7, 7, 12, 7, 6, 15, 13, 11,
    9, 7, 15, 11, 8, 6, 6, 14, 12, 13, 5, 14, 13, 13, 7, 5,
    15, 5, 8, 11, 14, 14, 6, 14, 6, 9, 12, 9, 12, 5, 15, 8,
    8, 5, 12, 9, 12, 5, 14, 6, 8, 13, 6, 5, 15, 13, 11, 11]

def leftConstants : Array UInt32 := #[0x00000000, 0x5a827999, 0x6ed9eba1, 0x8f1bbcdc, 0xa953fd4e]

def rightConstants : Array UInt32 := #[0x50a28be6, 0x5c4dd124, 0x6d703ef3, 0x7a6d76e9, 0x00000000]

def rotate (x n : UInt32) : UInt32 := (x <<< n) ||| (x >>> (32 - n))

/-- The Boolean function of the `n`-th group of sixteen steps. -/
def mix (n : Nat) (x y z : UInt32) : UInt32 :=
  match n with
  | 0 => x ^^^ y ^^^ z
  | 1 => (x &&& y) ||| (~~~ x &&& z)
  | 2 => (x ||| ~~~ y) ^^^ z
  | 3 => (x &&& z) ||| (y &&& ~~~ z)
  | _ => x ^^^ (y ||| ~~~ z)

def words : Bytes → List UInt32
  | a :: b :: c :: d :: rest =>
    (a.toUInt32 ||| (b.toUInt32 <<< 8) ||| (c.toUInt32 <<< 16) ||| (d.toUInt32 <<< 24)) :: words rest
  | _ => []

def bytes (w : UInt32) : Bytes :=
  [w.toUInt8, (w >>> 8).toUInt8, (w >>> 16).toUInt8, (w >>> 24).toUInt8]

def step (mixed word constant shift : UInt32) (s : Chain) : Chain :=
  ⟨s.e, rotate (s.a + mixed + word + constant) shift + s.e, s.b, rotate s.c 10, s.d⟩

def left (block : Array UInt32) (s : Chain) : Chain :=
  Nat.fold 80 (fun t _ s =>
    step (mix (t / 16) s.b s.c s.d) (block.getD (leftWords.getD t 0) 0)
      (leftConstants.getD (t / 16) 0) (leftShifts.getD t 0) s) s

/-- The right line uses the Boolean functions in reverse order. -/
def right (block : Array UInt32) (s : Chain) : Chain :=
  Nat.fold 80 (fun t _ s =>
    step (mix (4 - t / 16) s.b s.c s.d) (block.getD (rightWords.getD t 0) 0)
      (rightConstants.getD (t / 16) 0) (rightShifts.getD t 0) s) s

def compress (s : Chain) (block : Bytes) : Chain :=
  let x := (words block).toArray
  let l := left x s
  let r := right x s
  ⟨s.b + l.c + r.d, s.c + l.d + r.e, s.d + l.e + r.a, s.e + l.a + r.b, s.a + l.b + r.c⟩

def Chain.digest (s : Chain) : Octets 20 :=
  ⟨bytes s.a ++ bytes s.b ++ bytes s.c ++ bytes s.d ++ bytes s.e, rfl⟩

end CoinSpend.Ripemd160

namespace CoinSpend

def ripemd160 (message : Bytes) : Octets 20 :=
  (absorb 64 Ripemd160.compress Ripemd160.initial (padded 64 (littleEndian 8) 8 message)).digest

end CoinSpend
