import CoinSpend.Hash.Hmac
import CoinSpend.Key.Secp256k1
import CoinSpend.Signature

/-! ECDSA over secp256k1: verification, and signing with the deterministic nonces of RFC 6979. -/
namespace CoinSpend.Ecdsa

open Secp256k1

/-- The smaller of a number and its negative modulo the group order. -/
def low (s : Nat) : Nat := if n / 2 < s then n - s else s

/-- Whether both numbers of a signature are below the group order. -/
def inRange (signature : Signature) : Bool := signature.r.toNat < n && signature.s.toNat < n

/-- Verifies the numbers `r` and `s` against a digest. -/
def verifies (digest : Octets 32) (key : Point) (r s : Nat) : Bool :=
  if r = 0 ∨ s = 0 then false
  else
    let inv := inverse n s
    match combination? (digest.toNat * inv % n) (r * inv % n) key with
    | some point => point.x % n == r
    | none => false

/-- The state of the nonce generator: a key and a running value. -/
structure Nonces where
  key : Octets 32
  value : Octets 32

namespace Nonces

def absorb (state : Nonces) (tag : UInt8) (data : Bytes) : Nonces :=
  let key := hmacSha256 state.key.bytes (state.value.bytes ++ tag :: data)
  ⟨key, hmacSha256 key.bytes state.value.bytes⟩

/-- Seeded with the secret and with the digest modulo the group order. -/
def start (secret digest : Nat) : Nonces :=
  let data := bigEndian 32 secret ++ bigEndian 32 (digest % n)
  ((⟨.zeros 32, ⟨List.replicate 32 1, rfl⟩⟩ : Nonces).absorb 0 data).absorb 1 data

def next (state : Nonces) : Octets 32 × Nonces :=
  let value := hmacSha256 state.key.bytes state.value.bytes
  (value, (⟨state.key, value⟩ : Nonces).absorb 0 [])

end Nonces

/-- The signature with a given nonce, its second number low; none if one of the numbers is zero. -/
def signWith? (secret digest nonce : Nat) : Option Signature :=
  if nonce = 0 ∨ n ≤ nonce then none
  else
    match multiple? nonce generator with
    | none => none
    | some point =>
      let r := point.x % n
      let s := inverse n nonce * (digest + r * secret) % n
      if r = 0 ∨ s = 0 then none else some ⟨.ofNat 32 r, .ofNat 32 (low s)⟩

/-- Tries nonces in turn, at most as many as the fuel says. -/
def signFrom? (secret digest : Nat) : Nat → Nonces → Option Signature
  | 0, _ => none
  | fuel + 1, state =>
    let (nonce, state) := state.next
    match signWith? secret digest nonce.toNat with
    | some signature => some signature
    | none => signFrom? secret digest fuel state

/-- Signs a digest. A nonce is refused with a chance of about 2^-127, and 64 refusals end the attempt. -/
def sign? (secret : Nat) (digest : Octets 32) : Option Signature :=
  signFrom? secret digest.toNat 64 (.start secret digest.toNat)

end CoinSpend.Ecdsa
