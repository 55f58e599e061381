import CoinSpend.Bytes
import CoinSpend.Failure

/-! The curve y² = x³ + 7 over the field of order `p`, its group of prime order `n`, and public keys as bytes. -/
namespace CoinSpend

namespace Secp256k1

/-- The order of the field. -/
def p : Nat := 0xfffffffffffffffffffffffffffffffffffffffffffffffffffffffefffffc2f

/-- The order of the group. -/
def n : Nat := 0xfffffffffffffffffffffffffffffffebaaedce6af48a03bbfd25e8cd0364141

/-- `base ^ exponent` modulo `modulus`, by repeated squaring. -/
def power (modulus base exponent : Nat) : Nat :=
  if _done : exponent = 0 then 1 % modulus
  else
    let root := power modulus (base * base % modulus) (exponent / 2)
    if exponent % 2 = 1 then base * root % modulus else root
termination_by exponent
decreasing_by exact Nat.div_lt_self (Nat.pos_of_ne_zero _done) (by decide)

/-- The inverse modulo a prime (Fermat). -/
def inverse (prime value : Nat) : Nat := power prime value (prime - 2)

def sub (x y : Nat) : Nat := (x + (p - y % p)) % p

/-- A point other than the neutral one. -/
structure Point where
  x : Nat
  y : Nat
deriving DecidableEq

def generator : Point :=
  ⟨0x79be667ef9dcbbac55a06295ce870b07029bfcdb2dce28d959f2815b16f81798,
    0x483ada7726a3c4655da4fbfc0e1108a8fd17b448a68554199c47d08ffb10d4b8⟩

/-- x / z² and y / z³ are the coordinates; the neutral point has z = 0. -/
structure Jacobian where
  x : Nat
  y : Nat
  z : Nat
deriving DecidableEq

namespace Jacobian

def neutral : Jacobian := ⟨1, 1, 0⟩

def double (a : Jacobian) : Jacobian :=
  let yy := a.y * a.y % p
  let s := 4 * a.x * yy % p
  let m := 3 * a.x * a.x % p
  let x := sub (m * m) (2 * s)
  ⟨x, sub (m * sub s x) (8 * yy * yy), 2 * a.y * a.z % p⟩

/-- The sum with a point. -/
def add (a : Jacobian) (b : Point) : Jacobian :=
  if a.z = 0 then ⟨b.x, b.y, 1⟩
  else
    let zz := a.z * a.z % p
    let h := sub (b.x * zz) a.x
    let r := sub (b.y * zz * a.z) a.y
    if h = 0 then if r = 0 then double a else neutral
    else
      let hh := h * h % p
      let hhh := h * hh % p
      let v := a.x * hh % p
      let x := sub (r * r) (hhh + 2 * v)
      ⟨x, sub (r * sub v x) (a.y * hhh), a.z * h % p⟩

def affine? (a : Jacobian) : Option Point :=
  if a.z = 0 then none
  else
    let inv := inverse p a.z
    let inv2 := inv * inv % p
    some ⟨a.x * inv2 % p, a.y * inv2 * inv % p⟩

/-- `scalar` times a point, for scalars below 2^256. -/
def multiple (scalar : Nat) (point : Point) : Jacobian :=
  Nat.fold 256 (fun i _ sum =>
    let twice := double sum
    if scalar.testBit (255 - i) then add twice point else twice) neutral

end Jacobian

def multiple? (scalar : Nat) (point : Point) : Option Point := (Jacobian.multiple scalar point).affine?

/-- `first` times the generator and `second` times a point, added. -/
def combination? (first second : Nat) (point : Point) : Option Point :=
  match multiple? second point with
  | some other => ((Jacobian.multiple first generator).add other).affine?
  | none => multiple? first generator

def onCurve (point : Point) : Bool :=
  point.x < p && point.y < p && point.y * point.y % p == (point.x * point.x * point.x + 7) % p

/-- The point with coordinate `x` and a second coordinate of the given parity. -/
def lift? (x : Nat) (odd : Bool) : Option Point :=
  let root := power p (x * x * x + 7) ((p + 1) / 4)
  let point := ⟨x, if (root % 2 == 1) == odd then root else p - root⟩
  if onCurve point then some point else none

end Secp256k1

namespace PublicKey

open Secp256k1

/-- A public key in 33 bytes, parity first, or in 65; a full key may state the parity of y too. -/
def parse? : Bytes → Option Point
  | [] => none
  | tag :: coordinates =>
    if coordinates.length = 32 then
      if tag = 0x02 then lift? (ofBigEndian coordinates) false
      else if tag = 0x03 then lift? (ofBigEndian coordinates) true
      else none
    else if coordinates.length = 64 then
      let point := ⟨ofBigEndian (coordinates.take 32), ofBigEndian (coordinates.drop 32)⟩
      let parity := tag = 0x04 ∨ (tag = 0x06 ∧ point.y % 2 = 0) ∨ (tag = 0x07 ∧ point.y % 2 = 1)
      if parity ∧ onCurve point then some point else none
    else none

/-- The form of 33 bytes. -/
def compressed (point : Point) : Octets 33 :=
  ⟨(if point.y % 2 = 0 then 0x02 else 0x03) :: bigEndian 32 point.x, by simp⟩

inductive Error where
  | wrongLength (length : Nat)
  | malformed
deriving DecidableEq

def Error.message : Error → String
  | .wrongLength length => s!"Public key must be 33 or 65 bytes, got {length}"
  | .malformed => "Secp256k1 error: malformed public key"

def Error.toFailure (error : Error) : Failure := .plain .invalidInput error.message

def compress (key : Bytes) : Except Error (Octets 33) :=
  if key.length = 33 ∨ key.length = 65 then
    match parse? key with
    | some point => .ok (compressed point)
    | none => .error .malformed
  else .error (.wrongLength key.length)

end PublicKey

end CoinSpend
